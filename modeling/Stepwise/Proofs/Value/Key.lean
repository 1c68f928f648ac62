import Mathlib.Data.List.Basic
import Stepwise.Proofs.Value.Table
import Stepwise.Value.Access

/-!
# Values as keys

Which values are the same is decided by walking both of them. What can be a key has a form of its
own instead: its leaf, its parts, or the text of what has no end. Keys are the same exactly when
they have one form, so that sameness of keys is an equivalence, which it is not for maps and sets.
-/

namespace Stepwise

/-- The form of a key. All values that cannot be keys share one. -/
inductive Key where
  | leaf (leaf : Leaf)
  | parts (keys : List Key)
  | endless (text : String)
  | none

namespace Value

mutual

/-- The form of a value as a key. -/
def key : Value → Key
  | tuple items => .parts (keys items)
  | endless text _ => .endless text.get
  | v =>
    match v.leaf? with
    | some leaf => .leaf leaf
    | none => .none

def keys : List Value → List Key
  | [] => []
  | item :: rest => key item :: keys rest

end

/-- What has a leaf is compared by it. -/
theorem same_of_leaf {v : Value} {leaf : Leaf} (known : v.leaf? = some leaf) (w : Value) :
    v.same w = true ↔ w.leaf? = some leaf := by
  have compared : v.same w = leafSame v w := by
    cases v <;> first | (cases known; done) | simp [same]
  rw [compared, leafSame, known]
  cases w.leaf? with
  | none => simp
  | some other => simp [eq_comm]

/-- What has a leaf has it for its form, and nothing else has that form. -/
theorem key_eq_leaf {w : Value} {leaf : Leaf} : w.key = .leaf leaf ↔ w.leaf? = some leaf := by
  cases w with
  | tuple items => simp [key, leaf?]
  | endless text once => simp [key, leaf?]
  | _ =>
    simp only [key]
    split <;> simp_all

theorem key_of_parts {w : Value} {parts : List Key} (form : w.key = .parts parts) :
    ∃ items, w = .tuple items ∧ keys items = parts := by
  cases w with
  | tuple items => exact ⟨items, rfl, Key.parts.inj form⟩
  | endless text once => cases form
  | _ =>
    simp only [key] at form
    split at form <;> cases form

theorem key_of_endless {w : Value} {told : String} (form : w.key = .endless told) :
    ∃ text once, w = .endless text once ∧ text.get = told := by
  cases w with
  | endless text once => exact ⟨text, once, rfl, Key.endless.inj form⟩
  | tuple items => cases form
  | _ =>
    simp only [key] at form
    split at form <;> cases form

theorem same_iff_key_of_leaf {v : Value} {leaf : Leaf} (known : v.leaf? = some leaf) (w : Value) :
    v.same w = true ↔ v.key = w.key := by
  rw [same_of_leaf known, key_eq_leaf.mpr known, ← key_eq_leaf]
  exact eq_comm

mutual

/-- What can be a key is the same as what has its form. -/
theorem same_iff_key : ∀ v w : Value, v.unhashable? = none → (v.same w = true ↔ v.key = w.key)
  | .tuple items, w, hashable => by
    rw [unhashable?] at hashable
    cases w with
    | tuple others =>
      rw [same, key, key, Key.parts.injEq]
      exact itemsSame_iff_keys items others hashable
    | _ =>
      refine iff_of_false (by simp [same, leafSame, leaf?]) fun form => ?_
      obtain ⟨others, same, -⟩ := key_of_parts form.symm
      cases same
  | .endless text once, w, _ => by
    cases w with
    | endless other twice => simp [same, key]
    | _ =>
      refine iff_of_false (by simp [same, leafSame, leaf?]) fun form => ?_
      obtain ⟨other, twice, same, -⟩ := key_of_endless form.symm
      cases same
  | .float x, w, _ => by
    cases whole : x.toInt? with
    | some n =>
      have form : (float x).leaf? = some (.number n) := by rw [leaf?, whole]
      exact same_iff_key_of_leaf form w
    | none =>
      have form : (float x).leaf? = some (.fraction x) := by rw [leaf?, whole]
      exact same_iff_key_of_leaf form w
  | .null, w, _ | .bool _, w, _ | .int _, w, _ | .str _, w, _ | .bytes _, w, _ | .date _, w, _
  | .moment _, w, _ | .object _ _ _, w, _ | .callable, w, _ | .faulty _ _, w, _ =>
    same_iff_key_of_leaf rfl w

/-- Lists of keys are the same item by item when they have one form. -/
theorem itemsSame_iff_keys : ∀ items others : List Value, firstUnhashable? items = none →
    (itemsSame items others = true ↔ keys items = keys others)
  | [], [], _ => by simp [itemsSame]
  | [], other :: rest, _ => by simp [itemsSame, keys]
  | item :: rest, [], _ => by simp [itemsSame, keys]
  | item :: rest, other :: others, hashable => by
    rw [firstUnhashable?, Option.or_eq_none_iff] at hashable
    rw [itemsSame, Bool.and_eq_true, same_iff_key item other hashable.1,
      itemsSame_iff_keys rest others hashable.2, keys, keys, List.cons.injEq]

end

/-! ## Every value is the same as itself -/

/-- What a map has is within another map when each of its entries is found there. -/
theorem entriesWithin_iff {entries others : List (Value × Value)} :
    entriesWithin entries others = true ↔ ∀ entry ∈ entries, ∃ other ∈ others,
      entry.1.same other.1 = true ∧ entry.2.same other.2 = true := by
  induction entries with
  | nil => simp [entriesWithin]
  | cons entry rest inductionHypothesis =>
    obtain ⟨key, content⟩ := entry
    rw [entriesWithin, Bool.and_eq_true, inductionHypothesis, List.any_eq_true]
    simp only [Bool.and_eq_true, List.forall_mem_cons]

/-- What a set has is within another set when each of its members is found there. -/
theorem itemsWithin_iff {items others : List Value} :
    itemsWithin items others = true ↔ ∀ item ∈ items, ∃ other ∈ others,
      item.same other = true := by
  induction items with
  | nil => simp [itemsWithin]
  | cons item rest inductionHypothesis =>
    rw [itemsWithin, Bool.and_eq_true, inductionHypothesis, List.any_eq_true, List.forall_mem_cons]

mutual

/-- Even not-a-number can stand for itself. -/
theorem same_self : ∀ v : Value, v.same v = true
  | .list items => by
    rw [same]
    exact itemsSame_self items
  | .tuple items => by
    rw [same]
    exact itemsSame_self items
  | .set items => by
    rw [same, decide_eq_true rfl, Bool.true_and, itemsWithin_iff]
    exact fun item member => ⟨item, member, same_self_of_mem items item member⟩
  | .map entries => by
    rw [same, decide_eq_true rfl, Bool.true_and, entriesWithin_iff]
    exact fun entry member => ⟨entry, member, same_self_of_mem_entries entries entry member⟩
  | .float x => by
    cases whole : x.toInt? with
    | none => simp [same, leafSame, leaf?, whole]
    | some n => simp [same, leafSame, leaf?, whole]
  | .endless _ _ => by simp [same]
  | .null | .bool _ | .int _ | .str _ | .bytes _ | .date _ | .moment _ | .object _ _ _ | .callable
  | .faulty _ _ => by simp [same, leafSame, leaf?]

theorem itemsSame_self : ∀ items : List Value, itemsSame items items = true
  | [] => by rw [itemsSame]
  | item :: rest => by
    rw [itemsSame, same_self item, itemsSame_self rest]
    rfl

theorem same_self_of_mem : ∀ items : List Value, ∀ item ∈ items, item.same item = true
  | [] => by simp
  | item :: rest => List.forall_mem_cons.mpr ⟨same_self item, same_self_of_mem rest⟩

theorem same_self_of_mem_entries : ∀ entries : List (Value × Value), ∀ entry ∈ entries,
    entry.1.same entry.1 = true ∧ entry.2.same entry.2 = true
  | [] => by simp
  | (key, content) :: rest =>
    List.forall_mem_cons.mpr ⟨⟨same_self key, same_self content⟩, same_self_of_mem_entries rest⟩

end

/-! ## Sameness of keys -/

/-- The value can be a key. -/
def IsKey (v : Value) : Prop := v.hashable = .ok ()

theorem isKey_str (text : String) : (str text).IsKey := rfl

namespace IsKey

variable {v w u : Value}

theorem same_iff (hashable : v.IsKey) : v.same w = true ↔ v.key = w.key := by
  refine same_iff_key v w ?_
  unfold IsKey Value.hashable at hashable
  split at hashable
  · assumption
  · cases hashable

theorem same_comm (hashable : v.IsKey) (other : w.IsKey) : v.same w = w.same v := by
  rw [Bool.eq_iff_iff, hashable.same_iff, other.same_iff]
  exact eq_comm

/-- A key can be told from others by whatever is the same. -/
theorem same_left (hashable : v.IsKey) (other : w.IsKey) (same : v.same w = true) (u : Value) :
    v.same u = w.same u := by
  rw [Bool.eq_iff_iff, hashable.same_iff, other.same_iff, hashable.same_iff.mp same]

end IsKey

/-- A value stands for a member of a list when one of them is the same. -/
theorem isAmong_iff {v : Value} {items : List Value} :
    v.isAmong items = true ↔ ∃ item ∈ items, item.same v = true := by
  rw [isAmong, List.any_eq_true]

theorem isAmong_eq_false_iff {v : Value} {items : List Value} :
    v.isAmong items = false ↔ ∀ item ∈ items, item.same v = false := by
  rw [isAmong, List.any_eq_false]
  simp

end Value

/-! ## Tables of keys -/

namespace Table

variable {α : Type} {table : Table α} {key : Value}

theorem find?_eq_none_iff :
    table.find? key = none ↔ table.filter (·.1.same key) = [] := by
  refine ⟨fun missing => ?_, find?_of_absent⟩
  induction table with
  | nil => rfl
  | cons entry rest inductionHypothesis =>
    obtain ⟨other, held⟩ := entry
    rw [find?] at missing
    by_cases same : other.same key = true
    · rw [if_pos same] at missing
      cases missing
    · rw [if_neg same] at missing
      rw [List.filter_cons_of_neg (by exact same)]
      exact inductionHypothesis missing

/-- Erasing leaves other entries, and the rest of them in order. -/
theorem erase_sublist (table : Table α) (key : Value) : (table.erase key).Sublist table := by
  induction table with
  | nil => exact .slnil
  | cons entry rest inductionHypothesis =>
    obtain ⟨other, held⟩ := entry
    rw [erase]
    split
    · exact List.sublist_cons_self _ rest
    · exact inductionHypothesis.cons_cons _

/-- Of keys that are apart from each other none is left that is the same as an erased one. -/
theorem apart_of_mem_erase {entry : Value × α}
    (keys : ∀ entry ∈ table, entry.1.IsKey)
    (apart : table.Pairwise fun entry other => entry.1.same other.1 = false)
    (member : entry ∈ table.erase key) : entry.1.same key = false := by
  induction table with
  | nil => cases member
  | cons first rest inductionHypothesis =>
    obtain ⟨known, held⟩ := first
    obtain ⟨others, apart⟩ := List.pairwise_cons.mp apart
    have own : known.IsKey := keys (known, held) List.mem_cons_self
    have later : ∀ entry ∈ rest, entry.1.IsKey :=
      fun entry member => keys entry (List.mem_cons_of_mem _ member)
    rw [erase] at member
    split at member
    · rename_i same
      have different := others entry member
      rw [own.same_comm (later entry member)] at different
      by_cases found : entry.1.same key = true
      · rw [own.same_iff] at same
        rw [(later entry member).same_iff] at found
        have one := (later entry member).same_iff.mpr (found.trans same.symm)
        rw [different] at one
        cases one
      · simpa using found
    · rename_i different
      obtain rfl | member := List.mem_cons.mp member
      · simpa using different
      · exact inductionHypothesis later apart member

/-! ## Keys that are apart -/

/-- Keys that can be keys, no two of which are the same. -/
structure AreKeys (keys : List Value) : Prop where
  each : ∀ key ∈ keys, key.IsKey
  apart : keys.Pairwise fun key other => key.same other = false

namespace AreKeys

variable {keys : List Value}

theorem nil : AreKeys [] := ⟨by simp, .nil⟩

/-- A first key, from which the others are apart. -/
theorem cons_iff : AreKeys (key :: keys) ↔
    key.IsKey ∧ (∀ other ∈ keys, other.same key = false) ∧ AreKeys keys := by
  constructor
  · rintro ⟨each, apart⟩
    rw [List.forall_mem_cons] at each
    rw [List.pairwise_cons] at apart
    exact ⟨each.1, fun other member =>
      (each.2 other member).same_comm each.1 ▸ apart.1 other member, each.2, apart.2⟩
  · rintro ⟨own, unlike, each, apart⟩
    exact ⟨List.forall_mem_cons.mpr ⟨own, each⟩, List.pairwise_cons.mpr ⟨fun other member =>
      own.same_comm (each other member) ▸ unlike other member, apart⟩⟩

theorem filter (sound : AreKeys keys) (p : Value → Bool) : AreKeys (keys.filter p) where
  each other member := sound.each other (List.mem_filter.mp member).1
  apart := sound.apart.filter p

/-- A new key is put behind the others. -/
theorem concat (sound : AreKeys keys) (own : key.IsKey)
    (new : ∀ other ∈ keys, other.same key = false) : AreKeys (keys ++ [key]) where
  each := List.forall_mem_append.mpr ⟨sound.each, by simpa using own⟩
  apart := List.pairwise_append.mpr ⟨sound.apart, List.pairwise_singleton _ _, by simpa using new⟩

/-- Texts that are all different can be keys. -/
theorem of_nodup {names : List String} (nodup : names.Nodup) : AreKeys (names.map .str) where
  each key member := by
    obtain ⟨name, -, rfl⟩ := List.mem_map.mp member
    exact Value.isKey_str name
  apart := List.pairwise_map.mpr (nodup.imp fun apart => by simpa using apart)

end AreKeys

/-- Nothing is found under a key that none of the keys is the same as. -/
theorem find?_eq_none_iff_keys :
    table.find? key = none ↔ ∀ other ∈ table.keys, other.same key = false := by
  rw [find?_eq_none_iff, List.filter_eq_nil_iff]
  simp [keys]

/-- Under the inserted key stands what was inserted, and under others what stood there. -/
theorem find?_insert (sound : AreKeys table.keys) (own : key.IsKey) (a : α) (other : Value) :
    (table.insert key a).find? other = if key.same other then some a else table.find? other := by
  induction table with
  | nil => rfl
  | cons entry rest inductionHypothesis =>
    obtain ⟨known, held⟩ := entry
    obtain ⟨first, -, later⟩ := AreKeys.cons_iff.mp sound
    rw [insert]
    by_cases same : known.same key = true
    · rw [if_pos same, find?, find?, first.same_left own same other]
      split <;> rfl
    · rw [if_neg same, find?, find?, inductionHypothesis later]
      by_cases found : known.same other = true
      · have unlike : ¬ key.same other = true := fun alike => same (first.same_iff.mpr
          ((first.same_iff.mp found).trans (own.same_iff.mp alike).symm))
        rw [if_pos found, if_pos found, if_neg unlike]
      · rw [if_neg found, if_neg found]

/-- Nothing stands under an erased key, and under others what stood there. -/
theorem find?_erase (sound : AreKeys table.keys) (own : key.IsKey) (other : Value) :
    (table.erase key).find? other = if key.same other then none else table.find? other := by
  induction table with
  | nil => simp [erase, find?]
  | cons entry rest inductionHypothesis =>
    obtain ⟨known, held⟩ := entry
    obtain ⟨first, unlike, later⟩ := AreKeys.cons_iff.mp sound
    rw [erase]
    by_cases same : known.same key = true
    · have alike := first.same_left own same other
      rw [if_pos same, find?, ← alike]
      by_cases found : known.same other = true
      · rw [if_pos found]
        refine find?_eq_none_iff_keys.mpr fun k member => ?_
        have key := later.each k member
        rw [← Bool.not_eq_true, key.same_iff, ← first.same_iff.mp found, ← key.same_iff,
          unlike k member]
        simp
      · rw [if_neg found, if_neg found]
    · rw [if_neg same, find?, find?, inductionHypothesis later]
      by_cases found : known.same other = true
      · have unlike : ¬ key.same other = true := fun alike => same (first.same_iff.mpr
          ((first.same_iff.mp found).trans (own.same_iff.mp alike).symm))
        rw [if_pos found, if_pos found, if_neg unlike]
      · rw [if_neg found, if_neg found]

theorem keys_insert (table : Table α) (key : Value) (a : α) : (table.insert key a).keys =
    if (table.find? key).isSome then table.keys else table.keys ++ [key] := by
  induction table with
  | nil => rfl
  | cons entry rest inductionHypothesis =>
    obtain ⟨known, held⟩ := entry
    rw [insert, find?]
    split
    · rfl
    · change known :: (insert key a rest).keys = _
      rw [inductionHypothesis]
      split <;> rfl

theorem keys_erase (sound : AreKeys table.keys) :
    (table.erase key).keys = table.keys.filter fun other => !other.same key := by
  induction table with
  | nil => rfl
  | cons entry rest inductionHypothesis =>
    obtain ⟨known, held⟩ := entry
    obtain ⟨first, unlike, later⟩ := AreKeys.cons_iff.mp sound
    change _ = (known :: keys rest).filter _
    rw [erase]
    by_cases same : known.same key = true
    · rw [if_pos same, List.filter_cons_of_neg (by simp [same])]
      refine (List.filter_eq_self.mpr fun k member => ?_).symm
      have key := later.each k member
      rw [Bool.not_eq_true', ← Bool.not_eq_true, key.same_iff, ← first.same_iff.mp same,
        ← key.same_iff, unlike k member]
      simp
    · rw [if_neg same, List.filter_cons_of_pos (by simpa using same),
        ← inductionHypothesis later]
      rfl

/-- An entry is what is found under its key. -/
theorem find?_of_mem (sound : AreKeys table.keys) {a : α} (member : (key, a) ∈ table) :
    table.find? key = some a := by
  induction table with
  | nil => cases member
  | cons entry rest inductionHypothesis =>
    obtain ⟨known, held⟩ := entry
    obtain ⟨first, unlike, later⟩ := AreKeys.cons_iff.mp sound
    rw [find?]
    obtain same | member := List.mem_cons.mp member
    · cases same
      rw [if_pos (Value.same_self key)]
    · have listed : key ∈ keys rest := List.mem_map_of_mem member
      have apart : ¬ known.same key = true := by
        rw [first.same_comm (later.each key listed), unlike key listed]
        simp
      rw [if_neg apart, inductionHypothesis later member]

/-- What stands in a table is what is found under its keys. -/
theorem map_snd_eq_filterMap (sound : AreKeys table.keys) :
    table.map Prod.snd = table.keys.filterMap fun key => table.find? key := by
  rw [keys, List.filterMap_map, ← List.filterMap_eq_map]
  exact List.filterMap_congr fun entry member => (find?_of_mem sound member).symm

end Table

end Stepwise
