import Stepwise.Json.Writer
import Stepwise.Proofs.Fault.Text
import Stepwise.Proofs.Json.Forms

/-!
# What can be written

Writing a value goes through all its parts. It fails for a part of a kind that JSON has no form for,
which the fallback does not help either, for a key that is no name, for a number that is too long, and
for what has no end. Without a fallback this decides which values can be written. More can be written
than can be told from what is written: a list of fixed length is written as a list, and a key as its
text.
-/

namespace Stepwise

/-- A value is not of the right kind, or not acceptable, and the machinery says so. -/
def Fault.IsUnsuitable (f : Fault) : Prop :=
  ∃ message, f = typeError message ∨ f = valueError message

namespace Fault.IsUnsuitable

variable {f : Fault}

theorem isMachinery (unsuitable : f.IsUnsuitable) : f.IsMachinery := by
  obtain ⟨message, rfl | rfl⟩ := unsuitable
  · exact machinery_isMachinery _ _
  · exact machinery_isMachinery _ _

theorem isA (unsuitable : f.IsUnsuitable) :
    f.isA "TypeError" = true ∨ f.isA "ValueError" = true := by
  obtain ⟨message, rfl | rfl⟩ := unsuitable
  · exact .inl rfl
  · exact .inr rfl

end Fault.IsUnsuitable

/-- What holds of a value holds of its parts. -/
structure Value.IsInherited (given : Value → Prop) : Prop where
  list : ∀ {items}, given (.list items) → ∀ item ∈ items, given item
  tuple : ∀ {items}, given (.tuple items) → ∀ item ∈ items, given item
  map : ∀ {entries}, given (.map entries) → ∀ entry ∈ entries, given entry.2

theorem Value.isInherited_true : IsInherited fun _ => True where
  list := fun _ _ _ => trivial
  tuple := fun _ _ _ => trivial
  map := fun _ _ _ => trivial

namespace Json

open Fault

/-- A whole number is not written only when it is too long. -/
theorem writeWhole_error {n : Int} {f : Fault} (met : writeWhole n = .error f) :
    f.IsUnsuitable := by
  unfold writeWhole Value.wholeText at met
  -- The limit itself is too large to be computed with.
  generalize Numeral.digitLimit = limit at met
  split at met
  · cases met
  · exact ⟨_, .inr (Except.error.inj met).symm⟩

/-- Only texts, numbers, truth values and null are keys, and a number may have too many digits. -/
theorem writeKey_error {key : Value} {f : Fault} (met : writeKey key = .error f) :
    f.IsUnsuitable := by
  unfold writeKey at met
  split at met
  case h_5 => exact writeWhole_error met
  case h_6 => exact ⟨_, .inl (Except.error.inj met).symm⟩
  all_goals cases met

/-- What a fallback refuses of the given values and of their parts has an outcome, which unsuitable
values have too. -/
structure Refuses (fallback : Fallback) (given : Value → Prop) (outcome : Fault → Prop) : Prop where
  inherited : Value.IsInherited given
  unsuitable : ∀ f, f.IsUnsuitable → outcome f
  offered : ∀ v f, given v → fallback v = .error f → outcome f

section Faults

variable {layout : Layout} {fallback : Fallback} {given : Value → Prop} {outcome : Fault → Prop}

theorem fallbackText_error (refuses : Refuses fallback given outcome) {v : Value} (known : given v)
    {f : Fault} (met : write.fallbackText fallback v = .error f) : outcome f := by
  obtain failed | ⟨_, -, made⟩ := Result.bind_error met
  · exact refuses.offered v f known failed
  · cases made

mutual

/-- Writing meets what its fallback meets for a part of the value, and otherwise only keys and
numbers without a form. -/
theorem write_error (refuses : Refuses fallback given outcome) :
    ∀ (v : Value) (level : Nat) (f : Fault), given v →
    write layout fallback level v = .error f → outcome f
  | .int n => by
    intro level f _ met
    rw [write] at met
    exact refuses.unsuitable f (writeWhole_error met)
  | .list items => by
    intro level f known met
    rw [write] at met
    exact writeList_error refuses items level f (refuses.inherited.list known) met
  | .tuple items => by
    intro level f known met
    rw [write] at met
    exact writeList_error refuses items level f (refuses.inherited.tuple known) met
  | .map [] => by simp [write]
  | .map (entry :: rest) => by
    intro level f known met
    rw [write] at met
    · obtain parts | ⟨_, -, made⟩ := Result.bind_error met
      · exact writeEntries_error refuses (entry :: rest) _ f (refuses.inherited.map known) parts
      · cases made
    · simp
  | .endless _ _ => by
    intro level f _ met
    rw [write] at met
    exact refuses.unsuitable f ⟨_, .inr (Except.error.inj met).symm⟩
  | .bytes _ | .set _ | .date _ | .moment _ | .object _ _ _ | .callable | .faulty _ _ => by
    intro level f known met
    rw [write] at met
    exact fallbackText_error refuses known met
  | .null | .bool _ | .float _ | .str _ => by simp [write]

theorem writeList_error (refuses : Refuses fallback given outcome) :
    ∀ (items : List Value) (level : Nat) (f : Fault),
    (∀ item ∈ items, given item) → writeList layout fallback level items = .error f → outcome f
  | [] => by simp [writeList]
  | item :: rest => by
    intro level f known met
    rw [writeList] at met
    obtain first | ⟨_, -, met⟩ := Result.bind_error met
    · exact write_error refuses item _ f (known item List.mem_cons_self) first
    obtain others | ⟨_, -, made⟩ := Result.bind_error met
    · exact writeItems_error refuses rest _ f (fun other member =>
        known other (List.mem_cons_of_mem item member)) others
    · cases made

theorem writeItems_error (refuses : Refuses fallback given outcome) :
    ∀ (items : List Value) (level : Nat) (f : Fault),
    (∀ item ∈ items, given item) → writeItems layout fallback level items = .error f → outcome f
  | [] => by simp [writeItems]
  | item :: rest => by
    intro level f known met
    rw [writeItems] at met
    obtain first | ⟨_, -, met⟩ := Result.bind_error met
    · exact write_error refuses item _ f (known item List.mem_cons_self) first
    obtain others | ⟨_, -, made⟩ := Result.bind_error met
    · exact writeItems_error refuses rest _ f (fun other member =>
        known other (List.mem_cons_of_mem item member)) others
    · cases made

theorem writeEntries_error (refuses : Refuses fallback given outcome) :
    ∀ (entries : List (Value × Value)) (level : Nat) (f : Fault),
    (∀ entry ∈ entries, given entry.2) →
      writeEntries layout fallback level entries = .error f → outcome f
  | [] => by simp [writeEntries]
  | (key, content) :: rest => by
    intro level f known met
    rw [writeEntries] at met
    obtain name | ⟨_, -, met⟩ := Result.bind_error met
    · exact refuses.unsuitable f (writeKey_error name)
    obtain body | ⟨_, -, met⟩ := Result.bind_error met
    · exact write_error refuses content _ f (known (key, content) List.mem_cons_self) body
    obtain others | ⟨_, -, made⟩ := Result.bind_error met
    · exact writeEntries_error refuses rest _ f (fun other member =>
        known other (List.mem_cons_of_mem _ member)) others
    · cases made

end

end Faults

/-! ## Without a fallback -/

end Json

namespace Value

/-- Whether a key can be written. -/
def isName : Value → Bool
  | null | bool _ | float _ | str _ => true
  | int n => isShort n
  | _ => false

mutual

/-- Whether a value can be written. -/
def isWritable : Value → Bool
  | null | bool _ | float _ | str _ => true
  | int n => isShort n
  | list items => allWritable items
  | tuple items => allWritable items
  | map entries => allEntriesWritable entries
  | _ => false

def allWritable : List Value → Bool
  | [] => true
  | item :: rest => isWritable item && allWritable rest

def allEntriesWritable : List (Value × Value) → Bool
  | [] => true
  | (key, content) :: rest => key.isName && isWritable content && allEntriesWritable rest

end

end Value

namespace Json

theorem isOk_writeWhole (n : Int) : (writeWhole n).isOk = Value.isShort n := by
  rw [Bool.eq_iff_iff, Value.isShort_iff]
  unfold writeWhole Value.wholeText
  -- The limit itself is too large to be computed with.
  generalize Numeral.digitLimit = limit
  split
  · rename_i short
    exact iff_of_true rfl short
  · rename_i long
    exact iff_of_false nofun long

theorem isOk_writeKey (key : Value) : (writeKey key).isOk = key.isName := by
  cases key with
  | int n => exact isOk_writeWhole n
  | _ => rfl

mutual

/-- Writing succeeds for the values that can be written, and for no others. -/
theorem isOk_write (layout : Layout) : ∀ (v : Value) (level : Nat),
    (write layout noFallback level v).isOk = v.isWritable
  | .null, _ | .bool _, _ | .float _, _ | .str _, _ => by rw [write, Value.isWritable]; rfl
  | .int n, _ => by rw [write, Value.isWritable, isOk_writeWhole]
  | .list items, level => by rw [write, Value.isWritable, isOk_writeList layout items level]
  | .tuple items, level => by rw [write, Value.isWritable, isOk_writeList layout items level]
  | .map [], _ => by rw [write, Value.isWritable, Value.allEntriesWritable]; rfl
  | .map (entry :: rest), level => by
    have parts := isOk_writeEntries layout (entry :: rest) (level + 1)
    rw [write.eq_9 _ _ _ _ (by simp), Value.isWritable, ← parts]
    cases writeEntries layout noFallback (level + 1) (entry :: rest) <;> rfl
  | .bytes _, _ | .set _, _ | .date _, _ | .moment _, _ | .object _ _ _, _ | .callable, _
  | .faulty _ _, _ | .endless _ _, _ => by simp only [write, Value.isWritable]; rfl

theorem isOk_writeList (layout : Layout) : ∀ (items : List Value) (level : Nat),
    (writeList layout noFallback level items).isOk = Value.allWritable items
  | [], _ => by rw [writeList, Value.allWritable]; rfl
  | item :: rest, level => by
    have first := isOk_write layout item (level + 1)
    have others := isOk_writeItems layout rest (level + 1)
    rw [writeList, Value.allWritable, ← first, ← others]
    cases write layout noFallback (level + 1) item with
    | error f => rfl
    | ok text => cases writeItems layout noFallback (level + 1) rest <;> rfl

theorem isOk_writeItems (layout : Layout) : ∀ (items : List Value) (level : Nat),
    (writeItems layout noFallback level items).isOk = Value.allWritable items
  | [], _ => by rw [writeItems, Value.allWritable]; rfl
  | item :: rest, level => by
    have first := isOk_write layout item level
    have others := isOk_writeItems layout rest level
    rw [writeItems, Value.allWritable, ← first, ← others]
    cases write layout noFallback level item with
    | error f => rfl
    | ok text => cases writeItems layout noFallback level rest <;> rfl

theorem isOk_writeEntries (layout : Layout) : ∀ (entries : List (Value × Value)) (level : Nat),
    (writeEntries layout noFallback level entries).isOk = Value.allEntriesWritable entries
  | [], _ => by rw [writeEntries, Value.allEntriesWritable]; rfl
  | (key, content) :: rest, level => by
    have name := isOk_writeKey key
    have body := isOk_write layout content level
    have others := isOk_writeEntries layout rest level
    rw [writeEntries, Value.allEntriesWritable, ← name, ← body, ← others]
    cases writeKey key with
    | error f => rfl
    | ok text =>
      cases write layout noFallback level content with
      | error f => rfl
      | ok text => cases writeEntries layout noFallback level rest <;> rfl

end

end Json

end Stepwise
