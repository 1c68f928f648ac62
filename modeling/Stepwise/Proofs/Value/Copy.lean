import Stepwise.Value.Access

/-!
# Values under other identities

A deep copy differs from its original only in the identities of the host objects in it. Copying
is therefore one case of giving host objects other identities, and what does not look at
identities is the same for a value and for its copies: truth, texts, and whether the value can be
copied again. Comparing does look at them, so a map may not find what it was given under a host
object once either of them was copied.

The original of a value forgets how often its host objects were copied. Two records that differ
only in how often they were stored and loaded have equal originals.
-/

namespace Stepwise

namespace Value

mutual

/-- The value with other identities for its host objects. Endless values keep theirs, as they do
when they are copied. -/
def relabel (change : Identity → Identity) : Value → Value
  | list items => list (relabelItems change items)
  | tuple items => tuple (relabelItems change items)
  | map entries => map (relabelEntries change entries)
  | set items => set (relabelItems change items)
  | object identity text attributes =>
    object (change identity) text (relabelAttributes change attributes)
  | faulty identity message => faulty (change identity) message
  | v => v

def relabelItems (change : Identity → Identity) : List Value → List Value
  | [] => []
  | item :: rest => relabel change item :: relabelItems change rest

def relabelEntries (change : Identity → Identity) : List (Value × Value) → List (Value × Value)
  | [] => []
  | (key, content) :: rest =>
    (relabel change key, relabel change content) :: relabelEntries change rest

def relabelAttributes (change : Identity → Identity) :
    List (String × Value) → List (String × Value)
  | [] => []
  | (name, content) :: rest => (name, relabel change content) :: relabelAttributes change rest

end

/-- What the value is a copy of, however many copies lie between. -/
def original : Value → Value := relabel fun identity => { identity with copies := 0 }

mutual

/-- Copying counts one more copy for every host object. -/
theorem copied_eq_relabel : ∀ v : Value,
    v.copied = v.relabel fun identity => { identity with copies := identity.copies + 1 }
  | .list items => by rw [copied, relabel, copiedItems_eq_relabel items]
  | .tuple items => by rw [copied, relabel, copiedItems_eq_relabel items]
  | .map entries => by rw [copied, relabel, copiedEntries_eq_relabel entries]
  | .set items => by rw [copied, relabel, copiedItems_eq_relabel items]
  | .object _ _ attributes => by rw [copied, relabel, copiedAttributes_eq_relabel attributes]
  | .faulty _ _ => by rw [copied, relabel]
  | .null | .bool _ | .int _ | .float _ | .str _ | .bytes _ | .date _ | .moment _ | .callable
  | .endless _ _ => by simp [copied, relabel]

theorem copiedItems_eq_relabel : ∀ items : List Value,
    copiedItems items =
      relabelItems (fun identity => { identity with copies := identity.copies + 1 }) items
  | [] => rfl
  | item :: rest => by
    rw [copiedItems, relabelItems, copied_eq_relabel item, copiedItems_eq_relabel rest]

theorem copiedEntries_eq_relabel : ∀ entries : List (Value × Value),
    copiedEntries entries =
      relabelEntries (fun identity => { identity with copies := identity.copies + 1 }) entries
  | [] => rfl
  | (key, content) :: rest => by
    rw [copiedEntries, relabelEntries, copied_eq_relabel key, copied_eq_relabel content,
      copiedEntries_eq_relabel rest]

theorem copiedAttributes_eq_relabel : ∀ attributes : List (String × Value),
    copiedAttributes attributes =
      relabelAttributes (fun identity => { identity with copies := identity.copies + 1 })
        attributes
  | [] => rfl
  | (_, content) :: rest => by
    rw [copiedAttributes, relabelAttributes, copied_eq_relabel content,
      copiedAttributes_eq_relabel rest]

end

mutual

/-- Of two changes of identities made one after the other, the value sees only their
composition. -/
theorem relabel_relabel (second first : Identity → Identity) : ∀ v : Value,
    (v.relabel first).relabel second = v.relabel (second ∘ first)
  | .list items => by simp only [relabel, relabelItems_relabelItems second first items]
  | .tuple items => by simp only [relabel, relabelItems_relabelItems second first items]
  | .map entries => by simp only [relabel, relabelEntries_relabelEntries second first entries]
  | .set items => by simp only [relabel, relabelItems_relabelItems second first items]
  | .object _ _ attributes => by
    simp only [relabel, relabelAttributes_relabelAttributes second first attributes,
      Function.comp_apply]
  | .faulty _ _ => by simp only [relabel, Function.comp_apply]
  | .null | .bool _ | .int _ | .float _ | .str _ | .bytes _ | .date _ | .moment _ | .callable
  | .endless _ _ => by simp only [relabel]

theorem relabelItems_relabelItems (second first : Identity → Identity) : ∀ items : List Value,
    relabelItems second (relabelItems first items) = relabelItems (second ∘ first) items
  | [] => rfl
  | item :: rest => by
    simp only [relabelItems, relabel_relabel second first item,
      relabelItems_relabelItems second first rest]

theorem relabelEntries_relabelEntries (second first : Identity → Identity) :
    ∀ entries : List (Value × Value),
      relabelEntries second (relabelEntries first entries) =
        relabelEntries (second ∘ first) entries
  | [] => rfl
  | (key, content) :: rest => by
    simp only [relabelEntries, relabel_relabel second first key,
      relabel_relabel second first content, relabelEntries_relabelEntries second first rest]

theorem relabelAttributes_relabelAttributes (second first : Identity → Identity) :
    ∀ attributes : List (String × Value),
      relabelAttributes second (relabelAttributes first attributes) =
        relabelAttributes (second ∘ first) attributes
  | [] => rfl
  | (_, content) :: rest => by
    simp only [relabelAttributes, relabel_relabel second first content,
      relabelAttributes_relabelAttributes second first rest]

end

/-- A copy is a copy of the same original. -/
@[simp] theorem original_copied (v : Value) : v.copied.original = v.original := by
  rw [copied_eq_relabel, original, relabel_relabel]
  rfl

theorem original_str (text : String) : (str text).original = str text := by
  simp [original, relabel]

/-- Nothing but a text has a text for a copy. -/
theorem copied_of_isText {v : Value} (text : v.copied.isText = true) : v.copied = v := by
  cases v with
  | str told => rw [copied]; all_goals simp
  | _ => simp [copied, isText] at text

/-! ## What identities do not reach -/

theorem relabelItems_eq_map (change : Identity → Identity) (items : List Value) :
    relabelItems change items = items.map (relabel change) := by
  induction items with
  | nil => rfl
  | cons item rest inductionHypothesis =>
    rw [relabelItems, inductionHypothesis, List.map_cons]

theorem relabelEntries_eq_map (change : Identity → Identity) (entries : List (Value × Value)) :
    relabelEntries change entries =
      entries.map fun entry => (entry.1.relabel change, entry.2.relabel change) := by
  induction entries with
  | nil => rfl
  | cons entry rest inductionHypothesis =>
    rw [relabelEntries, inductionHypothesis, List.map_cons]

theorem relabelAttributes_eq_map (change : Identity → Identity)
    (attributes : List (String × Value)) :
    relabelAttributes change attributes =
      attributes.map fun entry => (entry.1, entry.2.relabel change) := by
  induction attributes with
  | nil => rfl
  | cons entry rest inductionHypothesis =>
    rw [relabelAttributes, inductionHypothesis, List.map_cons]

/-- An attribute is found by its name alone. -/
theorem lookup_relabelAttributes (change : Identity → Identity)
    (attributes : List (String × Value)) (name : String) :
    (relabelAttributes change attributes).lookup name =
      (attributes.lookup name).map (relabel change) := by
  induction attributes with
  | nil => rfl
  | cons entry rest inductionHypothesis =>
    rw [relabelAttributes, List.lookup_cons, List.lookup_cons, inductionHypothesis]
    split <;> rfl

/-- Containers stay empty or stay filled. -/
theorem truthy_relabel (change : Identity → Identity) (v : Value) :
    (v.relabel change).truthy = v.truthy := by
  cases v with
  | list items => cases items <;> rfl
  | tuple items => cases items <;> rfl
  | map entries => cases entries <;> rfl
  | set items => cases items <;> rfl
  | _ => simp [relabel, truthy]

/-! ## Copying again -/

/-- Whether an object can be taken apart is a matter of which attributes it has, whether they are
null, and whether they are truthy. -/
theorem partsFault?_relabel (change : Identity → Identity) (owner other : Value)
    (attributes : List (String × Value)) :
    (partsFault? other (relabelAttributes change attributes)).isSome =
      (partsFault? owner attributes).isSome := by
  have truthyPlaces : ((attributes.lookup placesName).map (relabel change)).any truthy =
      (attributes.lookup placesName).any truthy := by
    cases attributes.lookup placesName with
    | none => rfl
    | some places => exact truthy_relabel change places
  unfold partsFault?
  simp only [lookup_relabelAttributes]
  cases attributes.lookup partsHook with
  | none => simp
  | some hook =>
    cases hook with
    | null =>
      cases attributes.lookup plainPartsHook with
      | none =>
        simp only [Option.map_some, Option.map_none, relabel, truthyPlaces]
        split <;> simp
      | some plain => simp [relabel]
    | _ => simp [relabel]

theorem hookFault?_relabel (change : Identity → Identity) (owner other : Value)
    (attributes : List (String × Value)) :
    (hookFault? other (relabelAttributes change attributes)).isSome =
      (hookFault? owner attributes).isSome := by
  unfold hookFault?
  simp only [lookup_relabelAttributes]
  cases attributes.lookup copyHook with
  | none => exact partsFault?_relabel change owner other attributes
  | some hook =>
    cases hook with
    | null => exact partsFault?_relabel change owner other attributes
    | _ => simp [relabel]

mutual

/-- A value can be copied under other identities exactly when it can be copied as it is. -/
theorem isSome_obstacle?_relabel (change : Identity → Identity) : ∀ v : Value,
    (v.relabel change).obstacle?.isSome = v.obstacle?.isSome
  | .list items => by
    rw [relabel, obstacle?, obstacle?, isSome_itemObstacle?_relabel change items]
  | .tuple items => by
    rw [relabel, obstacle?, obstacle?, isSome_itemObstacle?_relabel change items]
  | .map entries => by
    rw [relabel, obstacle?, obstacle?, isSome_entryObstacle?_relabel change entries]
  | .set items => by
    rw [relabel, obstacle?, obstacle?, isSome_itemObstacle?_relabel change items]
  | .object identity text attributes => by
    rw [relabel, obstacle?, obstacle?, Option.isSome_or, Option.isSome_or,
      isSome_attributeObstacle?_relabel change attributes,
      hookFault?_relabel change (.object identity text [])]
  | .null | .bool _ | .int _ | .float _ | .str _ | .bytes _ | .date _ | .moment _ | .callable
  | .faulty _ _ | .endless _ _ => by simp [relabel, obstacle?]

theorem isSome_itemObstacle?_relabel (change : Identity → Identity) : ∀ items : List Value,
    (itemObstacle? (relabelItems change items)).isSome = (itemObstacle? items).isSome
  | [] => rfl
  | item :: rest => by
    rw [relabelItems, itemObstacle?, itemObstacle?, Option.isSome_or, Option.isSome_or,
      isSome_obstacle?_relabel change item, isSome_itemObstacle?_relabel change rest]

theorem isSome_entryObstacle?_relabel (change : Identity → Identity) :
    ∀ entries : List (Value × Value),
      (entryObstacle? (relabelEntries change entries)).isSome = (entryObstacle? entries).isSome
  | [] => rfl
  | (key, content) :: rest => by
    simp only [relabelEntries, entryObstacle?, Option.isSome_or,
      isSome_obstacle?_relabel change key, isSome_obstacle?_relabel change content,
      isSome_entryObstacle?_relabel change rest]

theorem isSome_attributeObstacle?_relabel (change : Identity → Identity) :
    ∀ attributes : List (String × Value),
      (attributeObstacle? (relabelAttributes change attributes)).isSome =
        (attributeObstacle? attributes).isSome
  | [] => rfl
  | (_, content) :: rest => by
    simp only [relabelAttributes, attributeObstacle?, Option.isSome_or,
      isSome_obstacle?_relabel change content, isSome_attributeObstacle?_relabel change rest]

end

/-- Values with one original can be copied together or not at all. -/
theorem obstacle?_eq_none_of_original {v w : Value} (same : v.original = w.original)
    (free : v.obstacle? = none) : w.obstacle? = none := by
  have counted : w.obstacle?.isSome = v.obstacle?.isSome := by
    rw [← isSome_obstacle?_relabel (fun identity => { identity with copies := 0 }) v,
      ← isSome_obstacle?_relabel (fun identity => { identity with copies := 0 }) w]
    exact congrArg (fun u => (obstacle? u).isSome) same.symm
  simpa [free] using counted

/-- A copy can be copied again. -/
theorem obstacle?_copied {v : Value} (free : v.obstacle? = none) :
    v.copied.obstacle? = none :=
  obstacle?_eq_none_of_original (original_copied v).symm free

/-- A map in which everything can be copied stays one when an entry that can be copied is put
into it. -/
theorem entryObstacle?_insert {key v : Value} {entries : List (Value × Value)}
    (named : key.obstacle? = none) (held : v.obstacle? = none)
    (free : entryObstacle? entries = none) :
    entryObstacle? (Table.insert key v entries) = none := by
  induction entries with
  | nil => simp [Table.insert, entryObstacle?, named, held]
  | cons entry rest inductionHypothesis =>
    simp only [entryObstacle?, Option.or_eq_none_iff] at free
    obtain ⟨⟨content, key⟩, later⟩ := free
    rw [Table.insert]
    split
    · simp [entryObstacle?, held, key, later]
    · simp [entryObstacle?, content, key, inductionHypothesis later]

/-! ## Names and their copies -/

/-- Whether a name stands for another one does not depend on how often it was copied. -/
def IsToldFrom (name other : Value) : Prop :=
  ∀ copy : Value, copy.original = name.original → copy.same other = name.same other

/-- A host object is not told from itself: what is kept under it is not found under it any more
once it was copied. -/
theorem not_isToldFrom_self (identity : Identity) (text : String)
    (attributes : List (String × Value)) :
    ¬ (object identity text attributes).IsToldFrom (object identity text attributes) := by
  have apart : { identity with copies := identity.copies + 1 } ≠ identity := by
    intro same
    have counted := congrArg Identity.copies same
    dsimp only at counted
    omega
  intro told
  have found := told _ (original_copied _)
  simp [copied, same, leafSame, leaf?, apart] at found

/-- Two maps with one original still have one after the same is put into both of them, provided
that no key is mistaken for the new one after copying. -/
theorem original_insert {key v w : Value} {entries others : List (Value × Value)}
    (same : (map entries).original = (map others).original) (held : v.original = w.original)
    (told : ∀ entry ∈ others, entry.1.IsToldFrom key) :
    (map (Table.insert key v entries)).original = (map (Table.insert key w others)).original := by
  simp only [original, relabel, relabelEntries_eq_map, map.injEq] at same held ⊢
  induction others generalizing entries with
  | nil =>
    obtain rfl : entries = [] := by simpa using same
    simp [Table.insert, held]
  | cons other rest inductionHypothesis =>
    cases entries with
    | nil => simp at same
    | cons entry later =>
      obtain ⟨name, content⟩ := entry
      obtain ⟨copy, kept⟩ := other
      simp only [List.map_cons, List.cons.injEq, Prod.mk.injEq] at same
      obtain ⟨⟨named, contents⟩, same⟩ := same
      have found : name.same key = copy.same key := told (copy, kept) List.mem_cons_self name named
      have others := fun entry member => told entry (List.mem_cons_of_mem _ member)
      have onward := inductionHypothesis others same
      rw [Table.insert, Table.insert, found]
      split
      · simp [named, held, same]
      · simp [named, contents, onward]

/-- A key of a map with a new entry is the new key or one of the old ones. -/
theorem mem_insert {key v : Value} {entries : List (Value × Value)} {entry : Value × Value}
    (member : entry ∈ Table.insert key v entries) :
    entry.1 = key ∨ ∃ old ∈ entries, entry.1 = old.1 := by
  induction entries with
  | nil =>
    rw [Table.insert, List.mem_singleton] at member
    exact .inl (member ▸ rfl)
  | cons first rest inductionHypothesis =>
    obtain ⟨name, content⟩ := first
    rw [Table.insert] at member
    split at member
    · obtain rfl | later := List.mem_cons.mp member
      · exact .inr ⟨(name, content), List.mem_cons_self, rfl⟩
      · exact .inr ⟨entry, List.mem_cons_of_mem _ later, rfl⟩
    · obtain rfl | later := List.mem_cons.mp member
      · exact .inr ⟨(name, content), List.mem_cons_self, rfl⟩
      · obtain new | ⟨old, listed, same⟩ := inductionHypothesis later
        · exact .inl new
        · exact .inr ⟨old, List.mem_cons_of_mem _ listed, same⟩

end Value

end Stepwise
