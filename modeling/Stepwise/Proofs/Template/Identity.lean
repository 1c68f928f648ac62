import Stepwise.Condition
import Stepwise.Proofs.Value.Text

/-!
# Templates do not see identities

A reference leads into values by texts, positions and names of attributes, and what it finds is put
into a template as a text. None of this depends on which copies of host objects are met. Templates
and conditions therefore come to the same on outputs and inputs that differ in identities alone, as
those of a record and of a snapshot of it do.
-/

namespace Stepwise

namespace Value

variable (change : Identity → Identity)

/-- A text is the same as a key under all identities of the key, or under none. -/
theorem same_str_relabel (v : Value) (text : String) :
    (v.relabel change).same (.str text) = v.same (.str text) := by
  cases v <;> simp [relabel, same, leafSame, leaf?]

theorem get?_relabelEntries (key : String) (entries : List (Value × Value)) :
    get? key (relabelEntries change entries) = (get? key entries).map (relabel change) := by
  rw [get?, get?]
  induction entries with
  | nil => rfl
  | cons entry rest inductionHypothesis =>
    rw [relabelEntries, Table.find?, Table.find?, same_str_relabel, inductionHypothesis]
    split <;> rfl

end Value

namespace Json

variable (change : Identity → Identity)

open Value

/-- No key of a map is written by its identity. -/
theorem writeKey_relabel (key : Value) : writeKey (key.relabel change) = writeKey key := by
  cases key <;> simp [relabel, writeKey, kind]

theorem fallbackText_relabel (v : Value) :
    write.fallbackText Value.text (v.relabel change) = write.fallbackText Value.text v := by
  rw [write.fallbackText, write.fallbackText, text_relabel]

mutual

theorem write_relabel (layout : Layout) : ∀ (v : Value) (level : Nat),
    write layout Value.text level (v.relabel change) = write layout Value.text level v
  | .list items => by
    intro level
    rw [relabel, write, write, writeList_relabel layout items]
  | .tuple items => by
    intro level
    rw [relabel, write, write, writeList_relabel layout items]
  | .map [] => by simp [relabel, relabelEntries]
  | .map (entry :: rest) => by
    intro level
    have parts := writeEntries_relabel layout (entry :: rest) (level + 1)
    rw [relabel, write, write, parts]
    · simp
    · simp [relabelEntries]
  | .set items => by
    intro level
    have told := fallbackText_relabel change (.set items)
    rw [relabel] at told ⊢
    rw [write, write, told]
  | .object identity text attributes => by
    intro level
    have told := fallbackText_relabel change (.object identity text attributes)
    rw [relabel] at told ⊢
    rw [write, write, told]
  | .faulty identity message => by
    intro level
    have told := fallbackText_relabel change (.faulty identity message)
    rw [relabel] at told ⊢
    rw [write, write, told]
  | .null | .bool _ | .int _ | .float _ | .str _ | .bytes _ | .date _ | .moment _ | .callable
  | .endless _ _ => by simp only [relabel, implies_true]

theorem writeList_relabel (layout : Layout) : ∀ (items : List Value) (level : Nat),
    writeList layout Value.text level (relabelItems change items) =
      writeList layout Value.text level items
  | [] => by simp [relabelItems]
  | item :: rest => by
    intro level
    rw [relabelItems, writeList, writeList, write_relabel layout item,
      writeItems_relabel layout rest]

theorem writeItems_relabel (layout : Layout) : ∀ (items : List Value) (level : Nat),
    writeItems layout Value.text level (relabelItems change items) =
      writeItems layout Value.text level items
  | [] => by simp [relabelItems]
  | item :: rest => by
    intro level
    rw [relabelItems, writeItems, writeItems, write_relabel layout item,
      writeItems_relabel layout rest]

theorem writeEntries_relabel (layout : Layout) :
    ∀ (entries : List (Value × Value)) (level : Nat),
      writeEntries layout Value.text level (relabelEntries change entries) =
        writeEntries layout Value.text level entries
  | [] => by simp [relabelEntries]
  | (key, content) :: rest => by
    intro level
    rw [relabelEntries, writeEntries, writeEntries, writeKey_relabel change key,
      write_relabel layout content, writeEntries_relabel layout rest]

end

end Json

namespace Template

variable (change : Identity → Identity)

open Value

theorem textOf_relabel (v : Value) : textOf (v.relabel change) = textOf v := by
  have told := text_relabel change v
  have written := Json.write_relabel change Json.compact v 0
  cases v <;> simp only [relabel, textOf] at told written ⊢ <;> simp only [told, written]

namespace Part

/-- A part of a value under other identities. Zones and spans of time have none. -/
def relabel : Part → Part
  | value v => value (v.relabel change)
  | zone offset => zone offset
  | span length => span length

theorem textOf_toValue_relabel (part : Part) :
    textOf (part.relabel change).toValue = textOf part.toValue := by
  cases part with
  | value v => exact textOf_relabel change v
  | zone offset => rfl
  | span length => rfl

/-- The attributes of times are plain. -/
theorem dateAttribute?_relabel (d : Date) (name : String) :
    (dateAttribute? d name).map (relabel change) = dateAttribute? d name := by
  unfold dateAttribute?
  split <;> simp [relabel, int, Value.relabel]

theorem momentAttribute?_relabel (m : Moment) (name : String) :
    (momentAttribute? m name).map (relabel change) = momentAttribute? m name := by
  unfold momentAttribute?
  split
  case h_6 => cases m.offset <;> rfl
  case h_10 => exact dateAttribute?_relabel change m.date _
  all_goals simp [relabel, int, Value.relabel]

theorem zoneAttribute?_relabel (name : String) :
    (zoneAttribute? name).map (relabel change) = zoneAttribute? name := by
  unfold zoneAttribute?
  split <;> rfl

theorem spanAttribute?_relabel (length : Span) (name : String) :
    (spanAttribute? length name).map (relabel change) = spanAttribute? length name := by
  unfold spanAttribute?
  split <;> simp [relabel, int, Value.relabel]

/-- Of an object's attributes the one of a name is found whatever the others hold. -/
theorem find?_relabelAttributes (attributes : List (String × Value)) (name : String) :
    ((relabelAttributes change attributes).reverse.find? fun entry => entry.1 = name) =
      (attributes.reverse.find? fun entry => entry.1 = name).map fun entry =>
        (entry.1, entry.2.relabel change) := by
  rw [relabelAttributes_eq_map, ← List.map_reverse, List.find?_map]
  rfl

theorem attribute?_relabel (part : Part) (name : String) :
    (part.relabel change).attribute? name = (part.attribute? name).map (relabel change) := by
  cases part with
  | zone offset => exact (zoneAttribute?_relabel change name).symm
  | span length => exact (spanAttribute?_relabel change length name).symm
  | value v =>
    cases v with
    | date d =>
      simpa only [relabel, Value.relabel, attribute?] using
        (dateAttribute?_relabel change d name).symm
    | moment m =>
      simpa only [relabel, Value.relabel, attribute?] using
        (momentAttribute?_relabel change m name).symm
    | object identity text attributes =>
      simp only [relabel, Value.relabel, attribute?, find?_relabelAttributes, Option.map_map]
      rfl
    | _ => simp [relabel, Value.relabel, attribute?]

theorem dataAttribute?_relabel (part : Part) (name : String) :
    (part.relabel change).dataAttribute? name =
      (part.dataAttribute? name).map (relabel change) := by
  unfold dataAttribute?
  split
  · rfl
  · rw [attribute?_relabel]
    cases part.attribute? name with
    | none => rfl
    | some found =>
      cases found with
      | value v => cases v <;> simp [relabel, Value.relabel]
      | _ => rfl

theorem itemAt?_relabelItems (items : List Value) (numeral : String) :
    itemAt? (relabelItems change items) numeral =
      (itemAt? items numeral).map (Value.relabel change) := by
  rw [relabelItems_eq_map]
  unfold itemAt?
  cases Numeral.readInt? numeral.toList with
  | none => rfl
  | some index =>
    simp only [Option.bind_eq_bind, Option.bind_some, List.length_map]
    cases position? items.length index with
    | none => rfl
    | some place => simp

theorem stepInto_relabel (part : Part) (segment : String) :
    (part.relabel change).stepInto segment = (part.stepInto segment).map (relabel change) := by
  have named := dataAttribute?_relabel change part segment
  cases part with
  | zone offset => exact named
  | span length => exact named
  | value v =>
    cases v with
    | map entries =>
      simp only [relabel, Value.relabel, stepInto, get?_relabelEntries, Option.map_map]
      rfl
    | list items =>
      simp only [relabel, Value.relabel, stepInto, itemAt?_relabelItems, Option.map_map]
      rfl
    | tuple items =>
      simp only [relabel, Value.relabel, stepInto, itemAt?_relabelItems, Option.map_map]
      rfl
    | _ => simpa only [relabel, Value.relabel, stepInto] using named

theorem present_relabel (found : Option Part) :
    present (found.map (relabel change)) = (present found).map (relabel change) := by
  cases found with
  | none => rfl
  | some part =>
    cases part with
    | value v => cases v <;> simp [relabel, Value.relabel, present]
    | _ => rfl

theorem follow_relabel (part : Part) (path : List String) :
    (part.relabel change).follow path = (part.follow path).map (relabel change) := by
  induction path generalizing part with
  | nil => exact present_relabel change (some part)
  | cons segment rest inductionHypothesis =>
    rw [follow, follow, stepInto_relabel, present_relabel]
    cases present (part.stepInto segment) with
    | none => rfl
    | some next => exact inductionHypothesis next

end Part

theorem binding?_relabel (outputs input : Value) (name : String) :
    binding? (outputs.relabel change) (input.relabel change) name =
      (binding? outputs input name).map (Value.relabel change) := by
  have bound (v : Value) :
      boundIn? (v.relabel change) name = (boundIn? v name).map (Value.relabel change) := by
    cases v with
    | map entries => simp only [Value.relabel, boundIn?, get?_relabelEntries]
    | _ => simp [Value.relabel, boundIn?]
  rw [binding?, binding?, bound, bound, Option.map_or]

/-- What a reference is replaced by is the same under all identities. -/
theorem lookup_relabel (path : List Char) (outputs input : Value) :
    (lookup path (outputs.relabel change) (input.relabel change)).map textOf =
      (lookup path outputs input).map textOf := by
  unfold lookup
  cases segments path with
  | nil => rfl
  | cons head rest =>
    dsimp only
    split
    · rfl
    · have bound : (binding? (outputs.relabel change) (input.relabel change) head).map Part.value =
          ((binding? outputs input head).map Part.value).map (Part.relabel change) := by
        rw [binding?_relabel, Option.map_map, Option.map_map]
        rfl
      rw [bound, Part.present_relabel]
      cases Part.present ((binding? outputs input head).map Part.value) with
      | none => rfl
      | some part =>
        simp only [Option.map_some, Part.follow_relabel, Option.map_map]
        congr 1
        funext found
        exact Part.textOf_toValue_relabel change found

theorem resolveToken_relabel (outputs input : Value) (strict : Bool) (token : Token) :
    resolveToken (outputs.relabel change) (input.relabel change) strict token =
      resolveToken outputs input strict token := by
  cases token with
  | text chars => rfl
  | reference path spelling =>
    have same := lookup_relabel change path outputs input
    unfold resolveToken
    cases found : lookup path outputs input <;>
      cases copied : lookup path (outputs.relabel change) (input.relabel change) <;>
      simp only [found, copied, Option.map_some, Option.map_none, Option.some.injEq] at same ⊢
    · cases same
    · cases same
    · exact same

theorem resolveText_relabel (text : String) (outputs input : Value) (strict : Bool) :
    resolveText text (outputs.relabel change) (input.relabel change) strict =
      resolveText text outputs input strict := by
  have same : resolveToken (outputs.relabel change) (input.relabel change) strict =
      resolveToken outputs input strict :=
    funext (resolveToken_relabel change outputs input strict)
  rw [resolveText, resolveText, same]

mutual

/-- A template comes to the same value under all identities, its own host objects included. -/
theorem resolve_relabel (outputs input : Value) : ∀ v : Value,
    resolve (outputs.relabel change) (input.relabel change) v = resolve outputs input v
  | .str text => by rw [resolve, resolve, resolveText_relabel]
  | .map entries => by rw [resolve, resolve, resolveEntries_relabel outputs input entries]
  | .list items => by rw [resolve, resolve, resolveItems_relabel outputs input items]
  | .tuple items => by rw [resolve, resolve, resolveItems_relabel outputs input items]
  | .endless _ _ => by rw [resolve, resolve]
  | .null | .bool _ | .int _ | .float _ | .bytes _ | .set _ | .date _ | .moment _
  | .object _ _ _ | .callable | .faulty _ _ => by simp [resolve]

theorem resolveItems_relabel (outputs input : Value) : ∀ items : List Value,
    resolveItems (outputs.relabel change) (input.relabel change) items =
      resolveItems outputs input items
  | [] => by rw [resolveItems, resolveItems]
  | item :: rest => by
    rw [resolveItems, resolveItems, resolve_relabel outputs input item,
      resolveItems_relabel outputs input rest]

theorem resolveEntries_relabel (outputs input : Value) : ∀ entries : List (Value × Value),
    resolveEntries (outputs.relabel change) (input.relabel change) entries =
      resolveEntries outputs input entries
  | [] => by rw [resolveEntries, resolveEntries]
  | (key, content) :: rest => by
    rw [resolveEntries, resolveEntries, resolve_relabel outputs input content,
      resolveEntries_relabel outputs input rest]

end

end Template

/-- A condition holds, or cannot be decided, under all identities alike. -/
theorem Condition.evaluate_relabel (change : Identity → Identity) (v outputs input : Value) :
    evaluate v (outputs.relabel change) (input.relabel change) = evaluate v outputs input := by
  have same (condition : Condition) :
      condition.holds (outputs.relabel change) (input.relabel change) =
        condition.holds outputs input := by
    cases condition with
    | constant holds => rfl
    | equality operand expected => rw [holds, holds, Template.resolveText_relabel]
  simp only [evaluate, same]

end Stepwise
