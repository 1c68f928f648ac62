import Mathlib.Data.List.Induction
import Stepwise.Proofs.Definition.Sound

/-!
# The history of a registry

A registry is told from the calls that were made on it. Each call comes to one deed at most: it
keeps a workflow under the id of that workflow, or it drops what is kept under an id. What is held
under an id is then what the last deed about it left, and the ids are listed in the order of the
deeds that first kept something under them, as long as it was not dropped since. Keeping another
workflow under an id changes neither its place nor the form in which it is listed.

A call that is refused changes nothing. A call can only raise after its change when the id cannot
be told, for every change is announced by the id.
-/

namespace Stepwise

/-! ## Calls and deeds -/

/-- A call that changes a registry. -/
inductive Registration where
  | register (definition : Workflow)
  | unregister (id : Value)

/-- What comes of a call. -/
inductive Deed where
  | keeps (workflow : Workflow)
  | drops (id : Value)

namespace Registration

def make : Registration → Effect Workflows Unit
  | register definition => Workflows.register definition
  | unregister id => Workflows.unregister id

/-- The id that the change is announced by. -/
def id : Registration → Value
  | register definition => definition.id
  | unregister id => id

/-- The registry after the call, whether it returned or raised. -/
def left (call : Registration) (workflows : Workflows) : Workflows :=
  (call.make.runOn workflows).2

/-- A definition is kept as a copy if it is admitted, and what can be no id is not dropped. -/
def deed? : Registration → Option Deed
  | register definition =>
    match definition.admitted with
    | .ok _ => some (.keeps definition.copied)
    | .error _ => none
  | unregister id =>
    match id.hashable with
    | .ok _ => some (.drops id)
    | .error _ => none

end Registration

/-- The registry after calls, made one after the other. -/
def Workflows.after (workflows : Workflows) (calls : List Registration) : Workflows :=
  calls.foldl (fun found call => call.left found) workflows

namespace Deed

/-- The id that the deed is about. -/
def id : Deed → Value
  | keeps workflow => workflow.id
  | drops id => id

/-- What the deed leaves under its id. -/
def kept? : Deed → Option Workflow
  | keeps workflow => some workflow
  | drops _ => none

/-- What deeds leave under an id: the last deed about it decides. -/
def held (deeds : List Deed) (id : Value) : Option Workflow :=
  (deeds.reverse.find? fun deed => deed.id.same id).bind kept?

/-- The id gets its place with the deed, which keeps something where nothing was held. -/
def opens (earlier : List Deed) (deed : Deed) : Bool :=
  deed.kept?.isSome && (held earlier deed.id).isNone

/-- The id loses its place with the deed. -/
def closes (id : Value) (deed : Deed) : Bool := deed.kept?.isNone && id.same deed.id

/-- The ids that have places after deeds that follow earlier ones, in the order of the deeds that
gave them their places. -/
def order : (earlier deeds : List Deed) → List Value
  | _, [] => []
  | earlier, deed :: later =>
    if deed.opens earlier && !later.any (closes deed.id) then
      deed.id :: order (earlier ++ [deed]) later
    else order (earlier ++ [deed]) later

/-- The answer for an id after deeds. What is not found is refused by the text of the id. -/
def answer (deeds : List Deed) (id : Value) : Except Fault Workflow := do
  id.hashable
  match held deeds id with
  | some workflow => return workflow
  | none =>
    let _ ← id.text
    throw (.workflowNotFound id)

variable {earlier deeds : List Deed} {deed : Deed}

theorem held_concat (deeds : List Deed) (deed : Deed) (id : Value) :
    held (deeds ++ [deed]) id = if deed.id.same id then deed.kept? else held deeds id := by
  rw [held, List.reverse_append, List.reverse_singleton, List.singleton_append, List.find?_cons]
  cases deed.id.same id <;> rfl

/-- A workflow that is kept last comes last, unless its id has a place already. -/
theorem order_concat_keeps (workflow : Workflow) : order earlier (deeds ++ [keeps workflow]) =
    if (held (earlier ++ deeds) workflow.id).isSome then order earlier deeds
    else order earlier deeds ++ [workflow.id] := by
  induction deeds generalizing earlier with
  | nil =>
    cases known : held earlier workflow.id <;> simp [order, opens, kept?, id, known]
  | cons first later inductionHypothesis =>
    have lasting (listed : Value) : (later ++ [keeps workflow]).any (closes listed) =
        later.any (closes listed) := by
      simp [closes, kept?]
    rw [List.cons_append, order, order, inductionHypothesis, lasting, List.append_assoc,
      List.singleton_append]
    by_cases listed : (first.opens earlier && !later.any (closes first.id)) = true
    · rw [if_pos listed, if_pos listed]
      split <;> rfl
    · rw [if_neg listed, if_neg listed]

/-- The id of a deed that drops has no place afterwards. -/
theorem order_concat_drops (id : Value) : order earlier (deeds ++ [drops id]) =
    (order earlier deeds).filter fun listed => !listed.same id := by
  induction deeds generalizing earlier with
  | nil => simp [order, opens, kept?]
  | cons first later inductionHypothesis =>
    have ending (listed : Value) : (later ++ [drops id]).any (closes listed) =
        (later.any (closes listed) || listed.same id) := by
      simp [closes, kept?, Deed.id]
    rw [List.cons_append, order, order, inductionHypothesis, ending]
    by_cases listed : (first.opens earlier && !later.any (closes first.id)) = true
    · rw [if_pos listed, List.filter_cons]
      simp only [Bool.and_eq_true, Bool.not_eq_true'] at listed
      rw [listed.1, listed.2, Bool.true_and, Bool.false_or]
    · rw [if_neg listed, if_neg]
      intro opened
      refine listed ?_
      simp only [Bool.and_eq_true, Bool.not_or] at opened ⊢
      exact ⟨opened.1, opened.2.1⟩

end Deed

/-! ## Steps -/

namespace Workflow

theorem isKey_copied {definition : Workflow} (fit : definition.admitted = .ok ()) :
    definition.copied.id.IsKey :=
  (Value.hashable_copied definition.id).trans (admitted_iff.mp fit).2.2

end Workflow

namespace Workflows

variable {workflows : Workflows} {deeds : List Deed} {calls : List Registration}

/-- The registry without what stands under an id. -/
def drop (workflows : Workflows) (id : Value) : Workflows :=
  { workflows with table := workflows.table.erase id }

/-- An id that can be no key is refused, and so is one under which nothing stands. What stands
under an id is gone before that is announced. -/
theorem runOn_unregister (id : Value) (workflows : Workflows) :
    (unregister id).runOn workflows =
      match id.hashable with
      | .error f => (.error f, workflows)
      | .ok () =>
        if workflows.table.contains id then (id.text.map fun _ => (), workflows.drop id)
        else (refuse (.workflowNotFound id), workflows) := by
  rw [unregister, Effect.runOn_lift_bind]
  cases id.hashable with
  | error f => rfl
  | ok _ =>
    simp only [Effect.runOn_get_bind]
    split
    · simp only [Effect.runOn_modify_bind, Effect.runOn_lift_bind]
      cases id.text <;> rfl
    · rw [Effect.runOn_lift]

theorem drop_of_absent {id : Value} (absent : workflows.table.find? id = none) :
    workflows.drop id = workflows := by
  rw [drop, Table.erase_of_absent (Table.find?_eq_none_iff.mp absent)]

theorem left_register (definition : Workflow) (workflows : Workflows) :
    (Registration.register definition).left workflows =
      match definition.admitted with
      | .error _ => workflows
      | .ok _ => workflows.keep definition := by
  rw [Registration.left, Registration.make, runOn_register]
  cases definition.admitted <;> rfl

/-- Taking back what is not there leaves the registry as it is, and so does dropping it. -/
theorem left_unregister (id : Value) (workflows : Workflows) :
    (Registration.unregister id).left workflows =
      match id.hashable with
      | .error _ => workflows
      | .ok _ => workflows.drop id := by
  rw [Registration.left, Registration.make, runOn_unregister]
  cases id.hashable with
  | error f => rfl
  | ok _ =>
    dsimp only
    split
    · rfl
    · rename_i missing
      exact (drop_of_absent (by simpa [Table.contains] using missing)).symm

/-- The registry holds what deeds left. -/
structure Holds (workflows : Workflows) (deeds : List Deed) : Prop where
  keys : Table.AreKeys workflows.table.keys
  found : ∀ id, workflows.table.find? id = Deed.held deeds id
  listed : workflows.table.keys = Deed.order [] deeds

namespace Holds

theorem kept (holds : workflows.Holds deeds) {definition : Workflow}
    (fit : definition.admitted = .ok ()) :
    (workflows.keep definition).Holds (deeds ++ [.keeps definition.copied]) := by
  have own : definition.copied.id.IsKey := Workflow.isKey_copied fit
  refine ⟨?_, fun id => ?_, ?_⟩ <;> rw [Workflows.keep]
  · rw [Table.keys_insert]
    split
    · exact holds.keys
    · rename_i missing
      exact holds.keys.concat own (Table.find?_eq_none_iff_keys.mp (by simpa using missing))
  · rw [Table.find?_insert holds.keys own, holds.found, Deed.held_concat]
    rfl
  · rw [Table.keys_insert, holds.found, holds.listed, Deed.order_concat_keeps, List.nil_append]

theorem dropped (holds : workflows.Holds deeds) {id : Value} (own : id.IsKey) :
    (workflows.drop id).Holds (deeds ++ [.drops id]) := by
  refine ⟨?_, fun other => ?_, ?_⟩ <;> rw [Workflows.drop]
  · rw [Table.keys_erase holds.keys]
    exact holds.keys.filter _
  · rw [Table.find?_erase holds.keys own, holds.found, Deed.held_concat]
    rfl
  · rw [Table.keys_erase holds.keys, holds.listed, Deed.order_concat_drops]

/-- A call does its deed, if there is one to do. -/
theorem step (holds : workflows.Holds deeds) (call : Registration) :
    (call.left workflows).Holds (deeds ++ call.deed?.toList) := by
  cases call with
  | register definition =>
    rw [left_register, Registration.deed?]
    cases fit : definition.admitted with
    | error f => simpa using holds
    | ok _ => exact holds.kept fit
  | unregister id =>
    rw [left_unregister, Registration.deed?]
    cases own : id.hashable with
    | error f => simpa using holds
    | ok _ => exact holds.dropped own

/-- Calls do their deeds one after the other. -/
theorem run (calls : List Registration) :
    (empty.after calls).Holds (calls.filterMap Registration.deed?) := by
  induction calls using List.reverseRecOn with
  | nil => exact ⟨.nil, fun _ => rfl, rfl⟩
  | append_singleton earlier call inductionHypothesis =>
    have one : [call].filterMap Registration.deed? = call.deed?.toList := by
      cases known : call.deed? <;> simp [known]
    rw [after, List.foldl_append, List.filterMap_append, one]
    exact inductionHypothesis.step call

theorem get (holds : workflows.Holds deeds) (id : Value) :
    workflows.get id = Deed.answer deeds id := by
  rw [Workflows.get, Deed.answer, holds.found]
  cases Deed.held deeds id with
  | some workflow => rfl
  | none =>
    refine congrArg (id.hashable >>= ·) (funext fun _ => ?_)
    rw [refuse, Fault.raised, Fault.text]
    cases id.text <;> rfl

theorem findByEvent (holds : workflows.Holds deeds) (event : Value) :
    workflows.findByEvent event =
      ((Deed.order [] deeds).filterMap (Deed.held deeds)).filter (·.awaits event) := by
  rw [Workflows.findByEvent, Table.map_snd_eq_filterMap holds.keys, holds.listed,
    funext holds.found]

end Holds

namespace Sample

/-- A workflow without an id. -/
def blank : Workflow where
  id := .null
  name := .null
  steps := []
  description := .str ""
  trigger := none

/-- A workflow whose id raises when it is told. -/
def mute : Workflow where
  id := .faulty ⟨.host 0, 0⟩ "no text"
  name := .faulty ⟨.host 0, 0⟩ "no text"
  steps := []
  description := .str ""
  trigger := none

end Sample

end Workflows

end Stepwise
