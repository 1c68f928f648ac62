import Stepwise.Proofs.Number.Rounding
import Stepwise.Proofs.Value.Table
import Stepwise.Value.Access

/-!
# Values that JSON has a form for

JSON says null, truth values, numbers, texts, lists of such values and maps of them under different
texts. Such a value holds no object of a host, so it can be copied and its copy is the value itself.
How many lists and maps lie within each other counts when a text is read, since there is a limit to
it.
-/

namespace Stepwise

namespace Value

/-- Whether a whole number has few enough digits to be written. -/
@[irreducible] def isShort (n : Int) : Bool := decide (n.natAbs < Nat.pow 10 Numeral.digitLimit)

theorem isShort_iff {n : Int} :
    isShort n = true ↔ n.natAbs < Nat.pow 10 Numeral.digitLimit := by
  unfold isShort
  exact decide_eq_true_iff

mutual

/-- Whether JSON has a form for a value from which it can be told. Not-a-number cannot: its word
stands for one of them only. -/
def isJson : Value → Bool
  | null => true
  | bool _ => true
  | int n => isShort n
  | float x => x.isCanonical && !x.isNaN
  | str _ => true
  | list items => allJson items
  | map entries => allEntriesJson entries
  | _ => false

def allJson : List Value → Bool
  | [] => true
  | item :: rest => isJson item && allJson rest

def allEntriesJson : List (Value × Value) → Bool
  | [] => true
  | (key, content) :: rest =>
    key.isText && !(Table.contains key rest) && isJson content && allEntriesJson rest

end

mutual

/-- Whether a value is data and nothing else: it holds no objects of a host, whose equality is that
they are one, and not not-a-number, which is not even equal to itself. -/
def isData : Value → Bool
  | float x => x.isCanonical && !x.isNaN
  | list items => allData items
  | tuple items => allData items
  | set items => allData items
  | map entries => allEntriesData entries
  | object _ _ _ => false
  | callable => false
  | faulty _ _ => false
  | _ => true

def allData : List Value → Bool
  | [] => true
  | item :: rest => isData item && allData rest

def allEntriesData : List (Value × Value) → Bool
  | [] => true
  | (key, content) :: rest => isData key && isData content && allEntriesData rest

end

mutual

/-- How many lists and maps lie within each other at most. -/
def levels : Value → Nat
  | list items => levelsOfItems items + 1
  | map entries => levelsOfEntries entries + 1
  | _ => 0

def levelsOfItems : List Value → Nat
  | [] => 0
  | item :: rest => max (levels item) (levelsOfItems rest)

def levelsOfEntries : List (Value × Value) → Nat
  | [] => 0
  | (_, content) :: rest => max (levels content) (levelsOfEntries rest)

end

theorem exists_str_of_isText {v : Value} (text : v.isText = true) : ∃ s, v = .str s := by
  cases v with
  | str s => exact ⟨s, rfl⟩
  | _ => cases text

theorem isText_of_allEntriesJson {entries : List (Value × Value)}
    (form : allEntriesJson entries = true) {entry : Value × Value} (member : entry ∈ entries) :
    entry.1.isText = true := by
  induction entries with
  | nil => cases member
  | cons first rest inductionHypothesis =>
    obtain ⟨key, content⟩ := first
    simp only [allEntriesJson, Bool.and_eq_true] at form
    rcases List.mem_cons.mp member with rfl | later
    · exact form.1.1.1
    · exact inductionHypothesis form.2 later

mutual

/-- What JSON can tell is data. -/
theorem isData_of_isJson : ∀ v : Value, v.isJson = true → v.isData = true
  | .list items, form => by
    rw [isJson] at form
    rw [isData]
    exact allData_of_allJson items form
  | .map entries, form => by
    rw [isJson] at form
    rw [isData]
    exact allEntriesData_of_allEntriesJson entries form
  | .float x, form => by
    rw [isJson] at form
    rw [isData]
    exact form
  | .null, _ | .bool _, _ | .int _, _ | .str _, _ => by simp only [isData]
  | .bytes _, form | .tuple _, form | .set _, form | .date _, form | .moment _, form
  | .object _ _ _, form | .callable, form | .faulty _ _, form | .endless _ _, form => by
    simp [isJson] at form

theorem allData_of_allJson : ∀ items : List Value, allJson items = true → allData items = true
  | [], _ => by rw [allData]
  | item :: rest, form => by
    rw [allJson, Bool.and_eq_true] at form
    rw [allData, isData_of_isJson item form.1, allData_of_allJson rest form.2]
    rfl

theorem allEntriesData_of_allEntriesJson : ∀ entries : List (Value × Value),
    allEntriesJson entries = true → allEntriesData entries = true
  | [], _ => by rw [allEntriesData]
  | (key, content) :: rest, form => by
    simp only [allEntriesJson, Bool.and_eq_true] at form
    obtain ⟨name, rfl⟩ := exists_str_of_isText form.1.1.1
    rw [allEntriesData, isData_of_isJson content form.1.2,
      allEntriesData_of_allEntriesJson rest form.2]
    simp only [isData, Bool.and_self]

end

/-! ## Copying -/

mutual

/-- Nothing keeps data from being copied. -/
theorem obstacle?_of_isData : ∀ v : Value, v.isData = true → v.obstacle? = none
  | .list items, data | .tuple items, data | .set items, data => by
    rw [isData] at data
    rw [obstacle?, itemObstacle?_of_allData items data]
  | .map entries, data => by
    rw [isData] at data
    rw [obstacle?, entryObstacle?_of_allEntriesData entries data]
  | .null, _ | .bool _, _ | .int _, _ | .float _, _ | .str _, _ | .bytes _, _ | .date _, _
  | .moment _, _ | .endless _ _, _ => by simp only [obstacle?]
  | .object _ _ _, data | .callable, data | .faulty _ _, data => by simp [isData] at data

theorem itemObstacle?_of_allData : ∀ items : List Value, allData items = true →
    itemObstacle? items = none
  | [], _ => by rw [itemObstacle?]
  | item :: rest, data => by
    rw [allData, Bool.and_eq_true] at data
    rw [itemObstacle?, obstacle?_of_isData item data.1, itemObstacle?_of_allData rest data.2]
    rfl

theorem entryObstacle?_of_allEntriesData : ∀ entries : List (Value × Value),
    allEntriesData entries = true → entryObstacle? entries = none
  | [], _ => by rw [entryObstacle?]
  | (key, content) :: rest, data => by
    simp only [allEntriesData, Bool.and_eq_true] at data
    rw [entryObstacle?, obstacle?_of_isData content data.1.2, obstacle?_of_isData key data.1.1,
      entryObstacle?_of_allEntriesData rest data.2]
    rfl

end

mutual

/-- Data is its own copy. -/
theorem copied_of_isData : ∀ v : Value, v.isData = true → v.copied = v
  | .list items, data | .tuple items, data | .set items, data => by
    rw [isData] at data
    rw [copied, copiedItems_of_allData items data]
  | .map entries, data => by
    rw [isData] at data
    rw [copied, copiedEntries_of_allEntriesData entries data]
  | .null, _ | .bool _, _ | .int _, _ | .float _, _ | .str _, _ | .bytes _, _ | .date _, _
  | .moment _, _ | .endless _ _, _ => by simp only [copied]
  | .object _ _ _, data | .callable, data | .faulty _ _, data => by simp [isData] at data

theorem copiedItems_of_allData : ∀ items : List Value, allData items = true →
    copiedItems items = items
  | [], _ => by rw [copiedItems]
  | item :: rest, data => by
    rw [allData, Bool.and_eq_true] at data
    rw [copiedItems, copied_of_isData item data.1, copiedItems_of_allData rest data.2]

theorem copiedEntries_of_allEntriesData : ∀ entries : List (Value × Value),
    allEntriesData entries = true → copiedEntries entries = entries
  | [], _ => by rw [copiedEntries]
  | (key, content) :: rest, data => by
    simp only [allEntriesData, Bool.and_eq_true] at data
    rw [copiedEntries, copied_of_isData key data.1.1, copied_of_isData content data.1.2,
      copiedEntries_of_allEntriesData rest data.2]

end

theorem copy_of_isData {v : Value} (data : v.isData = true) : v.copy = .ok v := by
  rw [copy, obstacle?_of_isData v data, copied_of_isData v data]
  rfl

/-- Nothing keeps a value with a form in JSON from being copied. -/
theorem obstacle?_of_isJson (v : Value) (form : v.isJson = true) : v.obstacle? = none :=
  obstacle?_of_isData v (isData_of_isJson v form)

/-- A value with a form in JSON is its own copy. -/
theorem copied_of_isJson (v : Value) (form : v.isJson = true) : v.copied = v :=
  copied_of_isData v (isData_of_isJson v form)

end Value

end Stepwise
