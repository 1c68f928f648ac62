import Stepwise.Json.Reader
import Stepwise.Proofs.Effect
import Stepwise.Proofs.Fault.Text

/-!
# What is read from JSON

Whatever a text is, what is read from it is bare: it is made of null, truth values, numbers and
texts, in lists and in maps whose keys are texts. A bare value can be shown unless a number in it
has too many digits.
-/

namespace Stepwise

namespace Value

mutual

/-- Whether a value is made of what JSON has signs for. -/
def isBare : Value → Bool
  | null | bool _ | int _ | float _ | str _ => true
  | list items => allBare items
  | map entries => allEntriesBare entries
  | _ => false

def allBare : List Value → Bool
  | [] => true
  | item :: rest => isBare item && allBare rest

def allEntriesBare : List (Value × Value) → Bool
  | [] => true
  | (key, content) :: rest => key.isText && isBare content && allEntriesBare rest

end

theorem isBare_of_mem {items : List Value} (bare : allBare items = true) :
    ∀ item ∈ items, item.isBare = true := by
  induction items with
  | nil => simp
  | cons item rest inductionHypothesis =>
    obtain ⟨first, others⟩ := Bool.and_eq_true_iff.mp bare
    exact List.forall_mem_cons.mpr ⟨first, inductionHypothesis others⟩

/-- The keys of a bare map are texts. -/
theorem isBare_of_mem_keys {entries : List (Value × Value)} (bare : allEntriesBare entries = true) :
    ∀ key ∈ Table.keys entries, key.isBare = true := by
  induction entries with
  | nil => simp [Table.keys]
  | cons entry rest inductionHypothesis =>
    obtain ⟨key, content⟩ := entry
    rw [allEntriesBare, Bool.and_eq_true, Bool.and_eq_true] at bare
    refine List.forall_mem_cons.mpr ⟨?_, inductionHypothesis bare.2⟩
    cases key with
    | str name => rfl
    | _ => cases bare.1.1

/-- What is found in a bare map is bare. -/
theorem isBare_of_find? {entries : List (Value × Value)} {key content : Value}
    (bare : allEntriesBare entries = true) (found : Table.find? key entries = some content) :
    content.isBare = true := by
  induction entries with
  | nil => cases found
  | cons entry rest inductionHypothesis =>
    obtain ⟨known, old⟩ := entry
    rw [allEntriesBare, Bool.and_eq_true, Bool.and_eq_true] at bare
    rw [Table.find?] at found
    split at found
    · obtain rfl := Option.some.inj found
      exact bare.1.2
    · exact inductionHypothesis bare.2 found

theorem allEntriesBare_insert {entries : List (Value × Value)} (name : String) {content : Value}
    (bare : allEntriesBare entries = true) (new : content.isBare = true) :
    allEntriesBare (Table.insert (.str name) content entries) = true := by
  induction entries with
  | nil => simp [Table.insert, allEntriesBare, isText, new]
  | cons entry rest inductionHypothesis =>
    obtain ⟨known, old⟩ := entry
    rw [allEntriesBare, Bool.and_eq_true, Bool.and_eq_true] at bare
    rw [Table.insert]
    split
    · rw [allEntriesBare, bare.1.1, new, bare.2]
      rfl
    · rw [allEntriesBare, bare.1.1, bare.1.2, inductionHypothesis bare.2]
      rfl

/-! ## Showing -/

mutual

/-- Only a number with too many digits stands in the way of showing a bare value. -/
theorem shown_of_isBare : ∀ (v : Value) (f : Fault), v.isBare = true → v.shown = .error f →
    ∃ message, f = .valueError message
  | .int n => by
    intro f _ met
    rw [shown, wholeText] at met
    -- The limit itself is too large to be computed with.
    generalize Numeral.digitLimit = limit at met
    split at met
    · cases met
    · exact ⟨_, (Except.error.inj met).symm⟩
  | .list items => by
    intro f bare met
    rw [shown] at met
    obtain parts | ⟨_, -, made⟩ := Result.bind_error met
    · exact shownItems_of_allBare items f bare parts
    · cases made
  | .map entries => by
    intro f bare met
    rw [shown] at met
    obtain parts | ⟨_, -, made⟩ := Result.bind_error met
    · exact shownEntries_of_allEntriesBare entries f bare parts
    · cases made
  | .null | .bool _ | .float _ | .str _ => by simp [shown]
  | .bytes _ | .tuple _ | .set _ | .date _ | .moment _ | .object _ _ _ | .callable | .faulty _ _
  | .endless _ _ => by simp [isBare]

theorem shownItems_of_allBare : ∀ (items : List Value) (f : Fault), allBare items = true →
    shownItems items = .error f → ∃ message, f = .valueError message
  | [] => by simp [shownItems]
  | item :: rest => by
    intro f bare met
    rw [allBare, Bool.and_eq_true] at bare
    rw [shownItems] at met
    obtain first | ⟨_, -, met⟩ := Result.bind_error met
    · exact shown_of_isBare item f bare.1 first
    obtain others | ⟨_, -, made⟩ := Result.bind_error met
    · exact shownItems_of_allBare rest f bare.2 others
    · cases made

theorem shownEntries_of_allEntriesBare : ∀ (entries : List (Value × Value)) (f : Fault),
    allEntriesBare entries = true → shownEntries entries = .error f →
    ∃ message, f = .valueError message
  | [] => by simp [shownEntries]
  | (key, content) :: rest => by
    intro f bare met
    rw [allEntriesBare, Bool.and_eq_true, Bool.and_eq_true] at bare
    rw [shownEntries] at met
    obtain left | ⟨_, -, met⟩ := Result.bind_error met
    · cases key with
      | str name => cases left
      | _ => cases bare.1.1
    obtain right | ⟨_, -, met⟩ := Result.bind_error met
    · exact shown_of_isBare content f bare.1.2 right
    obtain others | ⟨_, -, made⟩ := Result.bind_error met
    · exact shownEntries_of_allEntriesBare rest f bare.2 others
    · cases made

end

end Value

/-! ## Reading -/

namespace Json

theorem isBare_of_number {text rest : List Char} {v : Value} (read : number text = .ok (v, rest)) :
    v.isBare = true := by
  unfold number at read
  split at read
  split at read
  split at read
  · cases read
  · split at read
    split at read
    split at read
    · split at read
      · cases read
      · cases read
        rfl
    · cases read
      rfl

theorem isBare_of_word? {text rest : List Char} {v : Value} (found : word? text = some (v, rest)) :
    v.isBare = true := by
  have each : ∀ entry ∈ words, entry.2.isBare = true := by decide
  obtain ⟨entry, member, taken⟩ := List.exists_of_findSome?_eq_some found
  obtain ⟨_, -, same⟩ := Option.map_eq_some_iff.mp taken
  obtain ⟨rfl, -⟩ := Prod.mk.inj same
  exact each entry member

/-- What the three readers come to with so much fuel is bare. -/
structure ReadsBare (fuel : Nat) : Prop where
  ofValue : ∀ {depth text v rest}, value depth fuel text = .ok (v, rest) → v.isBare = true
  ofElements : ∀ {depth text items rest}, elements depth fuel text = .ok (items, rest) →
    Value.allBare items = true
  ofMembers : ∀ {depth seen text entries rest}, Value.allEntriesBare seen = true →
    members depth fuel seen text = .ok (entries, rest) → Value.allEntriesBare entries = true

namespace ReadsBare

variable {fuel depth : Nat} {text rest : List Char}

theorem value_succ (less : ReadsBare fuel) {v : Value}
    (read : value depth (fuel + 1) text = .ok (v, rest)) : v.isBare = true := by
  unfold value at read
  split at read
  · obtain ⟨_, -, read⟩ := Result.bind_ok read
    cases read
    rfl
  · split at read
    · cases read
    · split at read
      · cases read
        rfl
      · obtain ⟨⟨entries, left⟩, inside, read⟩ := Result.bind_ok read
        cases read
        exact less.ofMembers rfl inside
  · split at read
    · cases read
    · split at read
      · cases read
        rfl
      · obtain ⟨⟨items, left⟩, inside, read⟩ := Result.bind_ok read
        cases read
        exact less.ofElements inside
  · split at read
    · rename_i found
      cases read
      exact isBare_of_word? found
    · exact isBare_of_number read

theorem elements_succ (less : ReadsBare fuel) {items : List Value}
    (read : elements depth (fuel + 1) text = .ok (items, rest)) : Value.allBare items = true := by
  unfold elements at read
  obtain ⟨⟨item, left⟩, first, read⟩ := Result.bind_ok read
  dsimp only at read
  split at read
  · cases read
    rw [Value.allBare, less.ofValue first]
    rfl
  · obtain ⟨⟨others, left'⟩, later, read⟩ := Result.bind_ok read
    cases read
    rw [Value.allBare, less.ofValue first, less.ofElements later]
    rfl
  · cases read

theorem members_succ (less : ReadsBare fuel) {seen entries : Table Value}
    (bare : Value.allEntriesBare seen = true)
    (read : members depth (fuel + 1) seen text = .ok (entries, rest)) :
    Value.allEntriesBare entries = true := by
  unfold members at read
  split at read
  · obtain ⟨⟨name, left⟩, -, read⟩ := Result.bind_ok read
    dsimp only at read
    split at read
    · obtain ⟨⟨content, left'⟩, first, read⟩ := Result.bind_ok read
      have bare' := Value.allEntriesBare_insert (String.ofList name) bare (less.ofValue first)
      dsimp only at read
      split at read
      · cases read
        exact bare'
      · exact less.ofMembers bare' read
      · cases read
    · cases read
  · cases read

end ReadsBare

/-- The readers call each other with less fuel, so the induction is on the fuel for all of them at
once. -/
theorem readsBare (fuel : Nat) : ReadsBare fuel := by
  induction fuel with
  | zero =>
    refine ⟨fun read => ?_, fun read => ?_, fun _ read => ?_⟩
    · cases read
    · cases read
    · cases read
  | succ fuel inductionHypothesis =>
    exact ⟨inductionHypothesis.value_succ, inductionHypothesis.elements_succ,
      inductionHypothesis.members_succ⟩

/-- What is read from a text is bare. -/
theorem isBare_of_read {text : List Char} {v : Value} (known : read text = .ok v) :
    v.isBare = true := by
  unfold read at known
  dsimp only at known
  split at known
  · cases known
  · obtain ⟨⟨found, left⟩, first, known⟩ := Result.bind_ok known
    dsimp only at known
    split at known
    · cases known
      exact (readsBare _).ofValue first
    · cases known

end Json

end Stepwise
