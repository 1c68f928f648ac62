import Stepwise.Value.Equality

/-!
# Tables

A table finds an entry by a key that is the same, so it is the sameness of keys that decides what
an insertion replaces and what is found afterwards. Texts are the keys that can be relied on: each
stands for itself and for no other.
-/

namespace Stepwise

/-- A text can stand for itself, and for no other text. -/
@[simp] theorem Value.same_str (text other : String) :
    (str text).same (str other) = decide (text = other) := by
  simp [same, leafSame, leaf?]

theorem Value.same_str_self (text : String) : (str text).same (str text) = true := by simp

/-- Only a text can stand for a text. -/
theorem Value.eq_str_of_same {v : Value} {text : String} (same : v.same (.str text) = true) :
    v = .str text := by
  cases v with
  | str told => simpa using same
  | float x =>
    simp only [Value.same, Value.leafSame, Value.leaf?] at same
    split at same
    · rename_i found sought
      split at found <;> cases found <;> cases sought <;> simp at same
    · cases same
  | moment m =>
    simp only [Value.same, Value.leafSame, Value.leaf?] at same
    split at same <;> simp at same
  | _ => simp [Value.same, Value.leafSame, Value.leaf?] at same

theorem Value.eq_str_of_isStr {v : Value} {text : String} (named : v.isStr text = true) :
    v = .str text := by
  cases v with
  | str told => rw [of_decide_eq_true named]
  | _ => cases named

namespace Table

variable {α : Type} {key : Value}

/-- A key finds what was last inserted under it, provided that it can stand for itself. -/
theorem find?_insert_self (own : key.same key = true) (a : α) (table : Table α) :
    (table.insert key a).find? key = some a := by
  induction table with
  | nil => simp [insert, find?, own]
  | cons entry rest inductionHypothesis =>
    obtain ⟨known, old⟩ := entry
    by_cases same : known.same key = true
    · simp [insert, find?, same]
    · simp [insert, find?, same, inductionHypothesis]

/-- Of two contents that are inserted under one key the second is left. -/
theorem insert_insert (own : key.same key = true) (a b : α) (table : Table α) :
    (table.insert key a).insert key b = table.insert key b := by
  induction table with
  | nil => simp [insert, own]
  | cons entry rest inductionHypothesis =>
    obtain ⟨known, old⟩ := entry
    by_cases same : known.same key = true
    · simp [insert, same]
    · simp [insert, same, inductionHypothesis]

theorem isEmpty_insert (key : Value) (a : α) (table : Table α) :
    (table.insert key a).isEmpty = false := by
  cases table with
  | nil => rfl
  | cons entry rest =>
    rw [insert]
    split <;> rfl

/-- What is inserted under one text is not found under another. -/
theorem find?_insert_of_ne {name other : String} (apart : name ≠ other) (a : α)
    (table : Table α) :
    (table.insert (.str name) a).find? (.str other) = table.find? (.str other) := by
  induction table with
  | nil => simp [insert, find?, apart]
  | cons entry rest inductionHypothesis =>
    obtain ⟨known, old⟩ := entry
    by_cases same : known.same (.str name) = true
    · obtain rfl := Value.eq_str_of_same same
      simp [insert, find?, apart]
    · simp [insert, find?, same, inductionHypothesis]

/-- What is erased under one text stays under another. -/
theorem find?_erase_of_ne {name other : String} (apart : name ≠ other) (table : Table α) :
    (table.erase (.str name)).find? (.str other) = table.find? (.str other) := by
  induction table with
  | nil => rfl
  | cons entry rest inductionHypothesis =>
    obtain ⟨known, held⟩ := entry
    by_cases same : known.same (.str name) = true
    · obtain rfl := Value.eq_str_of_same same
      simp [erase, find?, apart]
    · simp [erase, find?, same, inductionHypothesis]

/-- What is not in a table comes last when it is put in. -/
theorem insert_of_absent {table : Table α} (absent : table.filter (·.1.same key) = []) (a : α) :
    table.insert key a = table ++ [(key, a)] := by
  induction table with
  | nil => rfl
  | cons entry rest inductionHypothesis =>
    obtain ⟨other, held⟩ := entry
    have apart : ¬ other.same key = true := by
      intro same
      rw [List.filter_cons_of_pos (by exact same)] at absent
      cases absent
    rw [List.filter_cons_of_neg (by exact apart)] at absent
    rw [insert, if_neg apart, inductionHypothesis absent, List.cons_append]

theorem find?_of_absent {table : Table α} (absent : table.filter (·.1.same key) = []) :
    table.find? key = none := by
  induction table with
  | nil => rfl
  | cons entry rest inductionHypothesis =>
    obtain ⟨other, held⟩ := entry
    by_cases same : other.same key = true
    · rw [List.filter_cons_of_pos (by exact same)] at absent
      cases absent
    · rw [List.filter_cons_of_neg (by exact same)] at absent
      rw [find?, if_neg same]
      exact inductionHypothesis absent

/-- There is nothing to erase of what is not in a table. -/
theorem erase_of_absent {table : Table α} (absent : table.filter (·.1.same key) = []) :
    table.erase key = table := by
  induction table with
  | nil => rfl
  | cons entry rest inductionHypothesis =>
    obtain ⟨other, held⟩ := entry
    by_cases same : other.same key = true
    · rw [List.filter_cons_of_pos (by exact same)] at absent
      cases absent
    · rw [List.filter_cons_of_neg (by exact same)] at absent
      rw [erase, if_neg same, inductionHypothesis absent]

/-- Erasing takes the first entry of a key away. -/
theorem filter_erase (table : Table α) (key : Value) :
    (table.erase key).filter (·.1.same key) = (table.filter (·.1.same key)).drop 1 := by
  induction table with
  | nil => rfl
  | cons entry rest inductionHypothesis =>
    obtain ⟨other, held⟩ := entry
    rw [erase]
    by_cases same : other.same key = true
    · rw [if_pos same, List.filter_cons_of_pos (by exact same)]
      rfl
    · rw [if_neg same, List.filter_cons_of_neg (by exact same),
        List.filter_cons_of_neg (by exact same), inductionHypothesis]

/-! ## Entries under texts -/

/-- An entry under its text. -/
def underText (entry : String × α) : Value × α := (.str entry.1, entry.2)

variable {name : String} {entries others : List (String × α)}

/-- A table whose keys are texts has its entries under these texts. -/
theorem exists_underText {table : Table α} {names : List String}
    (keys : table.keys = names.map .str) : ∃ entries : List (String × α),
      table = entries.map underText ∧ entries.map Prod.fst = names := by
  induction table generalizing names with
  | nil => exact ⟨[], rfl, (List.map_eq_nil_iff.mp keys.symm).symm⟩
  | cons entry rest inductionHypothesis =>
    obtain ⟨key, a⟩ := entry
    obtain ⟨name, others, rfl, rfl, same⟩ := List.map_eq_cons_iff.mp keys.symm
    obtain ⟨entries, rfl, rfl⟩ := inductionHypothesis same.symm
    exact ⟨(name, a) :: entries, rfl, rfl⟩

/-- Entries whose names are all different are found by their names. -/
theorem lookup_eq_some (apart : (entries.map Prod.fst).Nodup) {a : α} :
    entries.lookup name = some a ↔ (name, a) ∈ entries := by
  induction entries with
  | nil => simp
  | cons entry rest inductionHypothesis =>
    obtain ⟨other, held⟩ := entry
    obtain ⟨absent, later⟩ := List.nodup_cons.mp apart
    rw [List.lookup_cons, List.mem_cons]
    by_cases same : name = other
    · subst same
      have missing : (name, a) ∉ rest := fun member =>
        absent (List.mem_map.mpr ⟨(name, a), member, rfl⟩)
      simp [missing, eq_comm]
    · simp [same, beq_eq_false_iff_ne.mpr same, inductionHypothesis later]

/-- The order of such entries does not matter for what is found. -/
theorem lookup_of_perm (same : entries.Perm others) (apart : (entries.map Prod.fst).Nodup) :
    entries.lookup name = others.lookup name := by
  ext a
  rw [lookup_eq_some apart, lookup_eq_some ((same.map Prod.fst).nodup_iff.mp apart), same.mem_iff]

theorem filter_of_absent (absent : name ∉ entries.map Prod.fst) :
    entries.filter (fun entry => entry.1 ≠ name) = entries := by
  refine List.filter_eq_self.mpr fun entry member => decide_eq_true ?_
  rintro rfl
  exact absent (List.mem_map_of_mem member)

theorem find?_underText (entries : List (String × α)) (name : String) :
    find? (.str name) (entries.map underText) = entries.lookup name := by
  induction entries with
  | nil => rfl
  | cons entry rest inductionHypothesis =>
    obtain ⟨other, held⟩ := entry
    rw [List.map_cons, underText, find?, List.lookup_cons, inductionHypothesis, Value.same_str]
    by_cases same : name = other
    · simp [same]
    · simp [beq_eq_false_iff_ne.mpr same, Ne.symm same]

theorem erase_underText (apart : (entries.map Prod.fst).Nodup) :
    erase (.str name) (entries.map underText) =
      (entries.filter fun entry => entry.1 ≠ name).map underText := by
  induction entries with
  | nil => rfl
  | cons entry rest inductionHypothesis =>
    obtain ⟨other, held⟩ := entry
    obtain ⟨absent, later⟩ := List.nodup_cons.mp apart
    rw [List.map_cons, underText, erase, Value.same_str]
    by_cases same : other = name
    · subst same
      rw [if_pos (decide_eq_true rfl), List.filter_cons_of_neg (by simp), filter_of_absent absent]
    · rw [if_neg (by simpa using same), List.filter_cons_of_pos (by simpa using same),
        inductionHypothesis later]
      rfl

/-- What is inserted under a text takes the place of what was there. -/
theorem insert_underText (apart : (entries.map Prod.fst).Nodup) (name : String) (a : α) :
    ∃ changed : List (String × α), insert (.str name) a (entries.map underText) =
        changed.map underText ∧
      changed.Perm ((entries.filter fun entry => entry.1 ≠ name) ++ [(name, a)]) := by
  induction entries with
  | nil => exact ⟨[(name, a)], rfl, .refl _⟩
  | cons entry rest inductionHypothesis =>
    obtain ⟨other, held⟩ := entry
    obtain ⟨absent, later⟩ := List.nodup_cons.mp apart
    rw [List.map_cons, underText, insert, Value.same_str]
    by_cases same : other = name
    · subst same
      refine ⟨(other, a) :: rest, ?_, ?_⟩
      · rw [if_pos (decide_eq_true rfl)]
        rfl
      · rw [List.filter_cons_of_neg (by simp), filter_of_absent absent]
        exact (List.perm_append_singleton _ _).symm
    · obtain ⟨changed, inserted, arranged⟩ := inductionHypothesis later
      refine ⟨(other, held) :: changed, ?_, ?_⟩
      · rw [if_neg (by simpa using same), inserted]
        rfl
      · rw [List.filter_cons_of_pos (by simpa using same)]
        exact arranged.cons _

/-- What is inserted under a new text comes last. -/
theorem insert_underText_new (new : name ∉ entries.map Prod.fst) (a : α) :
    insert (.str name) a (entries.map underText) = (entries ++ [(name, a)]).map underText := by
  induction entries with
  | nil => rfl
  | cons entry rest inductionHypothesis =>
    obtain ⟨other, held⟩ := entry
    obtain ⟨apart, later⟩ := not_or.mp (mt List.mem_cons.mpr new)
    rw [List.map_cons, underText, insert, Value.same_str, if_neg (by simpa using Ne.symm apart),
      inductionHypothesis later]
    rfl

/-- Entries that are put into a table one after the other. -/
def insertAll (seen given : Table α) : Table α :=
  given.foldl (fun table entry => table.insert entry.1 entry.2) seen

/-- Texts that are all different stay so, whatever is inserted under texts. -/
theorem exists_insertAll (entries : List (String × α)) {seen : List (String × α)}
    (apart : (seen.map Prod.fst).Nodup) : ∃ kept : List (String × α),
      insertAll (seen.map underText) (entries.map underText) = kept.map underText ∧
        (kept.map Prod.fst).Nodup := by
  induction entries generalizing seen with
  | nil => exact ⟨seen, rfl, apart⟩
  | cons entry rest inductionHypothesis =>
    obtain ⟨name, a⟩ := entry
    obtain ⟨changed, inserted, arranged⟩ := insert_underText apart name a
    have others : (changed.map Prod.fst).Nodup := by
      rw [(arranged.map Prod.fst).nodup_iff, List.map_append, List.nodup_append]
      refine ⟨(List.filter_sublist.map Prod.fst).nodup apart, by simp, ?_⟩
      intro other member last inserted clash
      obtain ⟨entry, kept, rfl⟩ := List.mem_map.mp member
      have different := of_decide_eq_true (List.mem_filter.mp kept).2
      exact different (clash.trans (List.mem_singleton.mp inserted))
    obtain ⟨kept, same, different⟩ := inductionHypothesis others
    refine ⟨kept, ?_, different⟩
    rw [insertAll, List.map_cons, List.foldl_cons, underText, inserted]
    exact same

/-- Entries under texts that are all different are put into a table as they are. -/
theorem insertAll_underText {seen : List (String × α)}
    (apart : ((seen ++ entries).map Prod.fst).Nodup) :
    insertAll (seen.map underText) (entries.map underText) = (seen ++ entries).map underText := by
  induction entries generalizing seen with
  | nil =>
    rw [List.append_nil]
    rfl
  | cons entry rest inductionHypothesis =>
    obtain ⟨name, a⟩ := entry
    have new : name ∉ seen.map Prod.fst := by
      rw [List.map_append, List.nodup_append] at apart
      intro member
      exact apart.2.2 name member name List.mem_cons_self rfl
    have joined : seen ++ (name, a) :: rest = seen ++ [(name, a)] ++ rest := by
      rw [List.append_assoc]
      rfl
    rw [joined] at apart ⊢
    rw [← inductionHypothesis apart, ← insert_underText_new new]
    rfl

theorem insertAll_nil (apart : (entries.map Prod.fst).Nodup) :
    insertAll [] (entries.map underText) = entries.map underText := by
  have joined : (([] ++ entries).map Prod.fst).Nodup := apart
  exact insertAll_underText joined

end Table

end Stepwise
