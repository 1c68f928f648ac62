import Mathlib.Data.List.Perm.Subperm
import Stepwise.Proofs.Json.Writing
import Stepwise.Proofs.Value.Key

/-!
# What is read of what was written

The reader knows no lists of fixed length and no keys but texts. A value that was written is
therefore read with lists in the place of the former, and with every key in the place of which its
text stands; of keys that have one text the last content is read. The values that are read as values
equal to themselves are those that JSON has a form for.
-/

namespace Stepwise

namespace Value

/-- The text that is written for a key. -/
def name (key : Value) : String := String.ofList ((Json.writeKey key).toOption.getD [])

mutual

/-- The value that a written one is read as. -/
def reread : Value → Value
  | list items => list (rereadItems items)
  | tuple items => list (rereadItems items)
  | map entries => map (Table.insertAll [] (rereadEntries entries))
  | v => v

def rereadItems : List Value → List Value
  | [] => []
  | item :: rest => reread item :: rereadItems rest

/-- What is read of each entry, before the contents of one text are made one. -/
def rereadEntries : List (Value × Value) → List (Value × Value)
  | [] => []
  | (key, content) :: rest => (str key.name, reread content) :: rereadEntries rest

end

mutual

/-- How many lists and maps of either kind lie within each other at most. -/
def nesting : Value → Nat
  | list items => nestingOfItems items + 1
  | tuple items => nestingOfItems items + 1
  | map entries => nestingOfEntries entries + 1
  | _ => 0

def nestingOfItems : List Value → Nat
  | [] => 0
  | item :: rest => max (nesting item) (nestingOfItems rest)

def nestingOfEntries : List (Value × Value) → Nat
  | [] => 0
  | (_, content) :: rest => max (nesting content) (nestingOfEntries rest)

end

theorem name_str (text : String) : (str text).name = text := String.ofList_toList

/-- Entries under texts, each with its content. -/
theorem exists_underText {entries : List (Value × Value)}
    (texts : ∀ entry ∈ entries, entry.1.isText = true) :
    ∃ named : List (String × Value), entries = named.map Table.underText := by
  induction entries with
  | nil => exact ⟨[], rfl⟩
  | cons entry rest inductionHypothesis =>
    obtain ⟨key, content⟩ := entry
    obtain ⟨name, rfl⟩ := exists_str_of_isText (texts (key, content) List.mem_cons_self)
    obtain ⟨named, rfl⟩ := inductionHypothesis fun entry member =>
      texts entry (List.mem_cons_of_mem _ member)
    exact ⟨(name, content) :: named, rfl⟩

/-- The entries of a map that JSON can tell stand under texts that are all different. -/
theorem allEntriesJson_underText {named : List (String × Value)} :
    allEntriesJson (named.map Table.underText) = true ↔
      (named.map Prod.fst).Nodup ∧ ∀ entry ∈ named, entry.2.isJson = true := by
  induction named with
  | nil => simp [allEntriesJson]
  | cons entry rest inductionHypothesis =>
    obtain ⟨name, content⟩ := entry
    have absent : Table.contains (.str name) (rest.map Table.underText) = false ↔
        name ∉ rest.map Prod.fst := by
      rw [Table.contains, Table.find?_underText, Option.isSome_eq_false_iff,
        Option.isNone_iff_eq_none, List.lookup_eq_none_iff]
      constructor
      · intro others member
        obtain ⟨entry, present, rfl⟩ := List.mem_map.mp member
        simpa using others entry present
      · intro fresh entry member
        simp only [bne_iff_ne]
        rintro rfl
        exact fresh (List.mem_map_of_mem member)
    rw [List.map_cons, Table.underText, allEntriesJson]
    simp only [Bool.and_eq_true, Bool.not_eq_true', inductionHypothesis, absent, isText,
      List.map_cons, List.nodup_cons, List.forall_mem_cons]
    tauto

/-! ## Values that JSON has a form for -/

mutual

/-- A value that JSON has a form for is read as itself. -/
theorem reread_of_isJson : ∀ v : Value, v.isJson = true → v.reread = v
  | .list items, form => by
    rw [isJson] at form
    rw [reread, rereadItems_of_allJson items form]
  | .map entries, form => by
    rw [isJson] at form
    obtain ⟨named, rfl⟩ := exists_underText fun entry => isText_of_allEntriesJson form
    have apart := (allEntriesJson_underText.mp form).1
    rw [reread, rereadEntries_of_allEntriesJson _ form]
    rw [Table.insertAll_nil apart]
  | .null, _ | .bool _, _ | .int _, _ | .float _, _ | .str _, _ => by simp only [reread]
  | .bytes _, form | .tuple _, form | .set _, form | .date _, form | .moment _, form
  | .object _ _ _, form | .callable, form | .faulty _ _, form | .endless _ _, form => by
    simp [isJson] at form

theorem rereadItems_of_allJson : ∀ items : List Value, allJson items = true →
    rereadItems items = items
  | [], _ => by rw [rereadItems]
  | item :: rest, form => by
    rw [allJson, Bool.and_eq_true] at form
    rw [rereadItems, reread_of_isJson item form.1, rereadItems_of_allJson rest form.2]

theorem rereadEntries_of_allEntriesJson : ∀ entries : List (Value × Value),
    allEntriesJson entries = true → rereadEntries entries = entries
  | [], _ => by rw [rereadEntries]
  | (key, content) :: rest, form => by
    simp only [allEntriesJson, Bool.and_eq_true] at form
    obtain ⟨name, rfl⟩ := exists_str_of_isText form.1.1.1
    rw [rereadEntries, name_str, reread_of_isJson content form.1.2,
      rereadEntries_of_allEntriesJson rest form.2]

end

mutual

/-- There are no lists of fixed length in such a value, so its levels are counted alike. -/
theorem nesting_of_isJson : ∀ v : Value, v.isJson = true → v.nesting = v.levels
  | .list items, form => by
    rw [isJson] at form
    rw [nesting, levels, nestingOfItems_of_allJson items form]
  | .map entries, form => by
    rw [isJson] at form
    rw [nesting, levels, nestingOfEntries_of_allEntriesJson entries form]
  | .null, _ | .bool _, _ | .int _, _ | .float _, _ | .str _, _ => by simp only [nesting, levels]
  | .bytes _, form | .tuple _, form | .set _, form | .date _, form | .moment _, form
  | .object _ _ _, form | .callable, form | .faulty _ _, form | .endless _ _, form => by
    simp [isJson] at form

theorem nestingOfItems_of_allJson : ∀ items : List Value, allJson items = true →
    nestingOfItems items = levelsOfItems items
  | [], _ => by rw [nestingOfItems, levelsOfItems]
  | item :: rest, form => by
    rw [allJson, Bool.and_eq_true] at form
    rw [nestingOfItems, levelsOfItems, nesting_of_isJson item form.1,
      nestingOfItems_of_allJson rest form.2]

theorem nestingOfEntries_of_allEntriesJson : ∀ entries : List (Value × Value),
    allEntriesJson entries = true → nestingOfEntries entries = levelsOfEntries entries
  | [], _ => by rw [nestingOfEntries, levelsOfEntries]
  | (key, content) :: rest, form => by
    simp only [allEntriesJson, Bool.and_eq_true] at form
    rw [nestingOfEntries, levelsOfEntries, nesting_of_isJson content form.1.2,
      nestingOfEntries_of_allEntriesJson rest form.2]

end

mutual

/-- What JSON can tell can be written. -/
theorem isWritable_of_isJson : ∀ v : Value, v.isJson = true → v.isWritable = true
  | .list items, form => by
    rw [isJson] at form
    rw [isWritable]
    exact allWritable_of_allJson items form
  | .map entries, form => by
    rw [isJson] at form
    rw [isWritable]
    exact allEntriesWritable_of_allEntriesJson entries form
  | .int n, form => by
    rw [isJson] at form
    rw [isWritable]
    exact form
  | .null, _ | .bool _, _ | .float _, _ | .str _, _ => by simp only [isWritable]
  | .bytes _, form | .tuple _, form | .set _, form | .date _, form | .moment _, form
  | .object _ _ _, form | .callable, form | .faulty _ _, form | .endless _ _, form => by
    simp [isJson] at form

theorem allWritable_of_allJson : ∀ items : List Value, allJson items = true →
    allWritable items = true
  | [], _ => by rw [allWritable]
  | item :: rest, form => by
    rw [allJson, Bool.and_eq_true] at form
    rw [allWritable, isWritable_of_isJson item form.1, allWritable_of_allJson rest form.2]
    rfl

theorem allEntriesWritable_of_allEntriesJson : ∀ entries : List (Value × Value),
    allEntriesJson entries = true → allEntriesWritable entries = true
  | [], _ => by rw [allEntriesWritable]
  | (key, content) :: rest, form => by
    simp only [allEntriesJson, Bool.and_eq_true] at form
    obtain ⟨name, rfl⟩ := exists_str_of_isText form.1.1.1
    rw [allEntriesWritable, isWritable_of_isJson content form.1.2,
      allEntriesWritable_of_allEntriesJson rest form.2]
    rfl

end

/-! ## Equality -/

/-- The text that a value is. -/
def text? : Value → Option String
  | str text => some text
  | _ => none

theorem text?_eq_some {v : Value} {text : String} : v.text? = some text ↔ v = .str text := by
  cases v <;> simp [text?]

/-- A text stands for itself only. -/
theorem eq_of_str_same {text : String} {v : Value} (same : (str text).same v = true) :
    v = .str text := by
  have leaf : v.leaf? = some (.text text) := (same_of_leaf rfl v).mp same
  exact eq_str_of_same ((same_of_leaf leaf (.str text)).mpr rfl)

theorem exists_rereadEntries (entries : List (Value × Value)) : ∃ written : List (String × Value),
    rereadEntries entries = written.map Table.underText := by
  induction entries with
  | nil => exact ⟨[], rfl⟩
  | cons entry rest inductionHypothesis =>
    obtain ⟨key, content⟩ := entry
    obtain ⟨written, others⟩ := inductionHypothesis
    exact ⟨(key.name, content.reread) :: written, by rw [rereadEntries, others]; rfl⟩

theorem rereadEntries_underText (named : List (String × Value)) :
    rereadEntries (named.map Table.underText) =
      (named.map fun entry => (entry.1, entry.2.reread)).map Table.underText := by
  induction named with
  | nil => rfl
  | cons entry rest inductionHypothesis =>
    rw [List.map_cons, Table.underText, rereadEntries, name_str, inductionHypothesis]
    rfl

/-- When different texts are found under as many entries, no entry has another key and no two of
them have the same one. -/
theorem exists_named_of_within {entries : List (Value × Value)} {names : List String}
    (apart : names.Nodup) (several : names.length = entries.length)
    (found : ∀ name ∈ names, ∃ entry ∈ entries, entry.1 = .str name) :
    ∃ named : List (String × Value), entries = named.map Table.underText ∧
      (named.map Prod.fst).Nodup := by
  have within : names ⊆ entries.filterMap fun entry => entry.1.text? := by
    intro name member
    obtain ⟨entry, known, text⟩ := found name member
    exact List.mem_filterMap.mpr ⟨entry, known, text?_eq_some.mpr text⟩
  have arranged := List.Nodup.subperm apart within
  have fewer := List.length_filterMap_le (fun entry : Value × Value => entry.1.text?) entries
  have enough := arranged.length_le
  have many : (entries.filterMap fun entry => entry.1.text?).length = entries.length := by omega
  have texts : ∀ entry ∈ entries, entry.1.isText = true := by
    intro entry member
    obtain ⟨text, known⟩ := Option.isSome_iff_exists.mp
      (List.filterMap_length_eq_length.mp many entry member)
    rw [text?_eq_some.mp known]
    rfl
  obtain ⟨named, rfl⟩ := exists_underText texts
  have told : (named.map Table.underText).filterMap (fun entry => entry.1.text?) =
      named.map Prod.fst := by
    rw [List.filterMap_map]
    exact congrFun List.filterMap_eq_map named
  rw [told] at arranged
  have same := arranged.perm_of_length_le (by rw [several, List.length_map, List.length_map])
  exact ⟨named, rfl, same.nodup_iff.mp apart⟩

/-- A map that is read as an equal one has nothing but texts for keys, and all of them different. -/
theorem exists_named_of_same {entries : List (Value × Value)}
    (equal : (reread (.map entries)).same (.map entries) = true) :
    ∃ named : List (String × Value), entries = named.map Table.underText ∧
      (named.map Prod.fst).Nodup := by
  obtain ⟨written, read⟩ := exists_rereadEntries entries
  obtain ⟨kept, stored, apart⟩ := @Table.exists_insertAll Value written [] List.nodup_nil
  rw [List.map_nil] at stored
  rw [reread, read, stored, same, Bool.and_eq_true, decide_eq_true_eq, entriesWithin_iff] at equal
  apply exists_named_of_within apart
  · rw [List.length_map, ← equal.1, List.length_map]
  · intro name member
    obtain ⟨entry, present, rfl⟩ := List.mem_map.mp member
    obtain ⟨other, known, key, -⟩ := equal.2 _ (List.mem_map_of_mem present)
    exact ⟨other, known, eq_of_str_same key⟩

/-- The contents of such a map are read as equal ones. -/
theorem content_same_of_same {named : List (String × Value)} (apart : (named.map Prod.fst).Nodup)
    (equal : (reread (.map (named.map Table.underText))).same
      (.map (named.map Table.underText)) = true) :
    ∀ entry ∈ named, entry.2.reread.same entry.2 = true := by
  have stored : Table.insertAll [] (rereadEntries (named.map Table.underText)) =
      (named.map fun entry => (entry.1, entry.2.reread)).map Table.underText := by
    rw [rereadEntries_underText]
    apply Table.insertAll_nil
    rw [List.map_map]
    exact apart
  rw [reread, stored, same, Bool.and_eq_true, entriesWithin_iff] at equal
  intro entry member
  obtain ⟨other, known, key, content⟩ :=
    equal.2 _ (List.mem_map_of_mem (List.mem_map_of_mem member))
  obtain ⟨entry', member', rfl⟩ := List.mem_map.mp known
  have name := Value.str.inj (eq_of_str_same key)
  obtain rfl := List.inj_on_of_nodup_map apart member' member name
  exact content

mutual

/-- What is read as a value equal to itself is a value that JSON has a form for. -/
theorem isJson_of_same_reread : ∀ v : Value, v.isData = true → v.isWritable = true →
    v.reread.same v = true → v.isJson = true
  | .list items, data, writable, equal => by
    rw [isData] at data
    rw [isWritable] at writable
    rw [reread, same] at equal
    rw [isJson]
    exact allJson_of_itemsSame_reread items data writable equal
  | .map entries, data, writable, equal => by
    rw [isData] at data
    rw [isWritable] at writable
    have contents := isJson_of_contentSame_reread entries data writable
    obtain ⟨named, rfl, apart⟩ := exists_named_of_same equal
    rw [isJson, allEntriesJson_underText]
    refine ⟨apart, fun entry member => contents _ (List.mem_map_of_mem member) ?_⟩
    exact content_same_of_same apart equal entry member
  | .tuple items, _, _, equal => by simp [reread, same, leafSame, leaf?] at equal
  | .int n, _, writable, _ => by
    rw [isWritable] at writable
    rw [isJson]
    exact writable
  | .float x, data, _, _ => by
    rw [isData] at data
    rw [isJson]
    exact data
  | .null, _, _, _ | .bool _, _, _, _ | .str _, _, _, _ => by simp only [isJson]
  | .bytes _, _, writable, _ | .set _, _, writable, _ | .date _, _, writable, _
  | .moment _, _, writable, _ | .object _ _ _, _, writable, _ | .callable, _, writable, _
  | .faulty _ _, _, writable, _ | .endless _ _, _, writable, _ => by
    simp [isWritable] at writable

theorem allJson_of_itemsSame_reread : ∀ items : List Value, allData items = true →
    allWritable items = true → itemsSame (rereadItems items) items = true → allJson items = true
  | [], _, _, _ => by rw [allJson]
  | item :: rest, data, writable, equal => by
    rw [allData, Bool.and_eq_true] at data
    rw [allWritable, Bool.and_eq_true] at writable
    rw [rereadItems, itemsSame, Bool.and_eq_true] at equal
    rw [allJson, isJson_of_same_reread item data.1 writable.1 equal.1,
      allJson_of_itemsSame_reread rest data.2 writable.2 equal.2]
    rfl

theorem isJson_of_contentSame_reread : ∀ entries : List (Value × Value),
    allEntriesData entries = true → allEntriesWritable entries = true →
      ∀ entry ∈ entries, entry.2.reread.same entry.2 = true → entry.2.isJson = true
  | [], _, _ => by simp
  | (key, content) :: rest, data, writable => by
    simp only [allEntriesData, Bool.and_eq_true] at data
    simp only [allEntriesWritable, Bool.and_eq_true] at writable
    exact List.forall_mem_cons.mpr ⟨isJson_of_same_reread content data.1.2 writable.1.2,
      isJson_of_contentSame_reread rest data.2 writable.2⟩

end

/-- Of the data that can be written, the values that JSON has a form for are read as equal ones, and
no others. -/
theorem same_reread_iff {v : Value} (data : v.isData = true) (writable : v.isWritable = true) :
    v.reread.same v = true ↔ v.isJson = true := by
  constructor
  · exact isJson_of_same_reread v data writable
  · intro form
    rw [reread_of_isJson v form]
    exact same_self v

end Value

end Stepwise
