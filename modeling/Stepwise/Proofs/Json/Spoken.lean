import Stepwise.Proofs.Json.Rereading

/-!
# Values as JSON says them

JSON has one word for not-a-number, whichever of them is meant. Everything else is written as what it
is, so a value is written like the one that has the not-a-number of JSON in the place of others, and
that is the one that is reread. In data there is no not-a-number, and it is said as it is.
-/

namespace Stepwise

/-- The number that JSON says. -/
def Binary64.spoken : Binary64 → Binary64
  | .nan _ => .nan .json
  | x => x

namespace Value

mutual

/-- Whether all floating-point numbers in a value are such as are kept. -/
def isCanonical : Value → Bool
  | float x => x.isCanonical
  | list items => allCanonical items
  | tuple items => allCanonical items
  | map entries => allEntriesCanonical entries
  | _ => true

def allCanonical : List Value → Bool
  | [] => true
  | item :: rest => isCanonical item && allCanonical rest

def allEntriesCanonical : List (Value × Value) → Bool
  | [] => true
  | (_, content) :: rest => isCanonical content && allEntriesCanonical rest

end

mutual

/-- The value that JSON says. Keys are said by their texts. -/
def spoken : Value → Value
  | float x => float x.spoken
  | list items => list (spokenItems items)
  | tuple items => tuple (spokenItems items)
  | map entries => map (spokenEntries entries)
  | v => v

def spokenItems : List Value → List Value
  | [] => []
  | item :: rest => spoken item :: spokenItems rest

def spokenEntries : List (Value × Value) → List (Value × Value)
  | [] => []
  | (key, content) :: rest => (key, spoken content) :: spokenEntries rest

end

theorem spokenItems_eq_map (items : List Value) : spokenItems items = items.map spoken := by
  induction items with
  | nil => rfl
  | cons item rest inductionHypothesis => rw [spokenItems, inductionHypothesis, List.map_cons]

mutual

theorem nesting_spoken : ∀ v : Value, v.spoken.nesting = v.nesting
  | .list items | .tuple items => by rw [spoken, nesting, nesting, nestingOfItems_spoken items]
  | .map entries => by rw [spoken, nesting, nesting, nestingOfEntries_spoken entries]
  | .float _ => by simp only [spoken, nesting]
  | .null | .bool _ | .int _ | .str _ | .bytes _ | .set _ | .date _ | .moment _ | .object _ _ _
  | .callable | .faulty _ _ | .endless _ _ => by simp only [spoken]

theorem nestingOfItems_spoken : ∀ items : List Value,
    nestingOfItems (spokenItems items) = nestingOfItems items
  | [] => rfl
  | item :: rest => by
    rw [spokenItems, nestingOfItems, nestingOfItems, nesting_spoken item,
      nestingOfItems_spoken rest]

theorem nestingOfEntries_spoken : ∀ entries : List (Value × Value),
    nestingOfEntries (spokenEntries entries) = nestingOfEntries entries
  | [] => rfl
  | (_, content) :: rest => by
    rw [spokenEntries, nestingOfEntries, nestingOfEntries, nesting_spoken content,
      nestingOfEntries_spoken rest]

end

mutual

/-- Data is said as it is. -/
theorem spoken_of_isData : ∀ v : Value, v.isData = true →
    v.isCanonical = true ∧ v.spoken = v
  | .float x, data => by
    simp only [isData, Bool.and_eq_true, Bool.not_eq_true'] at data
    rw [isCanonical, spoken]
    refine ⟨data.1, ?_⟩
    cases x with
    | nan mark => cases data.2
    | _ => rfl
  | .list items, data | .tuple items, data => by
    rw [isData] at data
    obtain ⟨canonical, same⟩ := spokenItems_of_allData items data
    rw [isCanonical, spoken, same]
    exact ⟨canonical, rfl⟩
  | .map entries, data => by
    rw [isData] at data
    obtain ⟨canonical, same⟩ := spokenEntries_of_allEntriesData entries data
    rw [isCanonical, spoken, same]
    exact ⟨canonical, rfl⟩
  | .null, _ | .bool _, _ | .int _, _ | .str _, _ | .bytes _, _ | .set _, _ | .date _, _
  | .moment _, _ | .object _ _ _, _ | .callable, _ | .faulty _ _, _ | .endless _ _, _ => by
    simp only [isCanonical, spoken, and_self]

theorem spokenItems_of_allData : ∀ items : List Value, allData items = true →
    allCanonical items = true ∧ spokenItems items = items
  | [], _ => ⟨rfl, rfl⟩
  | item :: rest, data => by
    rw [allData, Bool.and_eq_true] at data
    obtain ⟨first, same⟩ := spoken_of_isData item data.1
    obtain ⟨others, same'⟩ := spokenItems_of_allData rest data.2
    rw [allCanonical, spokenItems, first, others, same, same']
    exact ⟨rfl, rfl⟩

theorem spokenEntries_of_allEntriesData : ∀ entries : List (Value × Value),
    allEntriesData entries = true →
      allEntriesCanonical entries = true ∧ spokenEntries entries = entries
  | [], _ => ⟨rfl, rfl⟩
  | (key, content) :: rest, data => by
    simp only [allEntriesData, Bool.and_eq_true] at data
    obtain ⟨first, same⟩ := spoken_of_isData content data.1.2
    obtain ⟨others, same'⟩ := spokenEntries_of_allEntriesData rest data.2
    rw [allEntriesCanonical, spokenEntries, first, others, same, same']
    exact ⟨rfl, rfl⟩

end

end Value

end Stepwise
