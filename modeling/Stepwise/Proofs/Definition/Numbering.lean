import Mathlib.Logic.Function.Basic
import Stepwise.Definition.Reading
import Stepwise.Definition.Validation
import Stepwise.Proofs.Value.Key

/-!
# What the number of a text decides

Definitions from two texts with the same characters differ in their marks alone. Marks are moved on
without two of them becoming one, so values that are told apart in one text are told apart in the
other, and nothing but the comparison of values looks at marks at all. A definition is therefore
valid, can be copied and can be told in whatever text it stands.
-/

namespace Stepwise

theorem Mark.later_injective (count : Nat) : Function.Injective (Mark.later count) := by
  intro mark other same
  cases mark <;> cases other <;> simp_all [Mark.later]

theorem Binary64.later_injective (count : Nat) : Function.Injective (Binary64.later count) := by
  intro x y same
  cases x with
  | nan mark =>
    cases y with
    | nan other => rw [Mark.later_injective count (Binary64.nan.inj same)]
    | _ => cases same
  | _ =>
    cases y with
    | nan other => cases same
    | _ => exact same

/-- The leaf of the same value in a text that comes so many texts later. -/
def Leaf.later (count : Nat) : Leaf → Leaf
  | fraction x => fraction (x.later count)
  | leaf => leaf

theorem Leaf.later_injective (count : Nat) : Function.Injective (Leaf.later count) := by
  intro leaf other same
  cases leaf with
  | fraction x =>
    cases other with
    | fraction y => rw [Binary64.later_injective count (Leaf.fraction.inj same)]
    | _ => cases same
  | _ =>
    cases other with
    | fraction y => cases same
    | _ => exact same

namespace Value

variable (count : Nat)

theorem laterItems_eq_map (items : List Value) :
    laterItems count items = items.map (later count) := by
  induction items with
  | nil => rfl
  | cons item rest inductionHypothesis => rw [laterItems, inductionHypothesis, List.map_cons]

theorem laterEntries_eq_map (entries : List (Value × Value)) :
    laterEntries count entries =
      entries.map fun entry => (entry.1.later count, entry.2.later count) := by
  induction entries with
  | nil => rfl
  | cons entry rest inductionHypothesis => rw [laterEntries, inductionHypothesis, List.map_cons]

mutual

/-- No text comes between the first text and itself. -/
theorem later_zero : ∀ v : Value, v.later 0 = v
  | .float x => by cases x with
    | nan mark => cases mark <;> rfl
    | _ => rfl
  | .list items => by rw [later, laterItems_zero items]
  | .tuple items => by rw [later, laterItems_zero items]
  | .map entries => by rw [later, laterEntries_zero entries]
  | .set items => by rw [later, laterItems_zero items]
  | .endless text once => by rw [later, later_zero once]
  | .null | .bool _ | .int _ | .str _ | .bytes _ | .date _ | .moment _ | .object _ _ _
  | .callable | .faulty _ _ => by simp [later]

theorem laterItems_zero : ∀ items : List Value, laterItems 0 items = items
  | [] => rfl
  | item :: rest => by rw [laterItems, later_zero item, laterItems_zero rest]

theorem laterEntries_zero : ∀ entries : List (Value × Value), laterEntries 0 entries = entries
  | [] => rfl
  | (key, content) :: rest => by
    rw [laterEntries, later_zero key, later_zero content, laterEntries_zero rest]

end

/-! ## Kinds and truth -/

theorem truthy_later (v : Value) : (v.later count).truthy = v.truthy := by
  cases v with
  | float x => cases x <;> rfl
  | list items => cases items <;> rfl
  | tuple items => cases items <;> rfl
  | map entries => cases entries <;> rfl
  | set items => cases items <;> rfl
  | _ => simp [later, truthy]

theorem orElse_later (first second : Value) :
    (first.orElse second).later count = (first.later count).orElse (second.later count) := by
  unfold orElse
  rw [truthy_later, apply_ite (later count)]

theorem isNull_later (v : Value) : (v.later count).isNull = v.isNull := by
  cases v <;> simp [later, isNull]

theorem isText_later (v : Value) : (v.later count).isText = v.isText := by
  cases v <;> simp [later, isText]

theorem isBool_later (v : Value) : (v.later count).isBool = v.isBool := by
  cases v <;> simp [later, isBool]

theorem isStr_later (v : Value) (text : String) : (v.later count).isStr text = v.isStr text := by
  cases v <;> simp [later, isStr]

theorem isPositive_later (v : Value) : (v.later count).isPositive = v.isPositive := by
  cases v with
  | float x => cases x <;> rfl
  | _ => simp [later, isPositive]

/-! ## Texts -/

mutual

theorem shown_later : ∀ v : Value, (v.later count).shown = v.shown
  | .float x => by cases x <;> rfl
  | .list items => by rw [later, shown, shown, shownItems_later items]
  | .tuple items => by rw [later, shown, shown, shownItems_later items]
  | .map entries => by rw [later, shown, shown, shownEntries_later entries]
  | .set items => by rw [later, shown, shown, shownItems_later items]
  | .endless _ _ => by rw [later, shown, shown]
  | .null | .bool _ | .int _ | .str _ | .bytes _ | .date _ | .moment _ | .object _ _ _
  | .callable | .faulty _ _ => by simp [later]

theorem shownItems_later : ∀ items : List Value,
    shownItems (laterItems count items) = shownItems items
  | [] => rfl
  | item :: rest => by
    rw [laterItems, shownItems, shownItems, shown_later item, shownItems_later rest]

theorem shownEntries_later : ∀ entries : List (Value × Value),
    shownEntries (laterEntries count entries) = shownEntries entries
  | [] => rfl
  | (key, content) :: rest => by
    rw [laterEntries, shownEntries, shownEntries, shown_later key, shown_later content,
      shownEntries_later rest]

end

/-- Marks are not seen in texts. -/
theorem text_later (v : Value) : (v.later count).text = v.text := by
  have shown := shown_later count v
  cases v <;> simp_all [later, text]

/-! ## Comparing -/

theorem leaf?_later (v : Value) : (v.later count).leaf? = v.leaf?.map (Leaf.later count) := by
  cases v with
  | float x =>
    cases x with
    | nan mark => rfl
    | _ =>
      simp only [later, Binary64.later, leaf?]
      split <;> simp [Leaf.later, Binary64.later]
  | moment m =>
    simp only [later, leaf?, Option.map_some]
    split <;> rfl
  | _ => simp [later, leaf?, Leaf.later]

/-- What has a leaf is told from others by its leaf, and leaves stay different. -/
theorem same_later_of_leaf {v : Value} {leaf : Leaf} (known : v.leaf? = some leaf) (w : Value) :
    (v.later count).same (w.later count) = v.same w := by
  have moved : (v.later count).leaf? = some (leaf.later count) := by
    rw [leaf?_later, known, Option.map_some]
  rw [Bool.eq_iff_iff, same_of_leaf moved, same_of_leaf known, leaf?_later,
    ← Option.map_some (f := Leaf.later count)]
  exact (Option.map_injective (Leaf.later_injective count)).eq_iff

mutual

/-- Values are the same in a later text exactly when they are the same in the first one. -/
theorem same_later : ∀ v w : Value, (v.later count).same (w.later count) = v.same w
  | .list items, w => by
    cases w with
    | list others => rw [later, later, same, same, itemsSame_later items others]
    | _ => simp [later, same, leafSame, leaf?]
  | .tuple items, w => by
    cases w with
    | tuple others => rw [later, later, same, same, itemsSame_later items others]
    | _ => simp [later, same, leafSame, leaf?]
  | .map entries, w => by
    cases w with
    | map others =>
      rw [later, later, same, same, entriesWithin_later entries others, laterEntries_eq_map,
        laterEntries_eq_map, List.length_map, List.length_map]
    | _ => simp [later, same, leafSame, leaf?]
  | .set items, w => by
    cases w with
    | set others =>
      rw [later, later, same, same, itemsWithin_later items others, laterItems_eq_map,
        laterItems_eq_map, List.length_map, List.length_map]
    | _ => simp [later, same, leafSame, leaf?]
  | .endless text once, w => by
    cases w with
    | endless other twice => rw [later, later, same, same]
    | _ => simp [later, same, leafSame, leaf?]
  | .float x, w => by
    cases whole : x.toInt? with
    | some n =>
      have form : (float x).leaf? = some (.number n) := by rw [leaf?, whole]
      exact same_later_of_leaf count form w
    | none =>
      have form : (float x).leaf? = some (.fraction x) := by rw [leaf?, whole]
      exact same_later_of_leaf count form w
  | .null, w | .bool _, w | .int _, w | .str _, w | .bytes _, w | .date _, w
  | .moment _, w | .object _ _ _, w | .callable, w | .faulty _ _, w =>
    same_later_of_leaf count rfl w

theorem itemsSame_later : ∀ items others : List Value,
    itemsSame (laterItems count items) (laterItems count others) = itemsSame items others
  | [], [] => rfl
  | [], _ :: _ | _ :: _, [] => by simp [laterItems, itemsSame]
  | item :: rest, other :: others => by
    rw [laterItems, laterItems, itemsSame, itemsSame, same_later item other,
      itemsSame_later rest others]

theorem itemsWithin_later : ∀ items others : List Value,
    itemsWithin (laterItems count items) (laterItems count others) = itemsWithin items others
  | [], _ => by rw [laterItems, itemsWithin, itemsWithin]
  | item :: rest, others => by
    have found : (laterItems count others).any ((item.later count).same ·) =
        others.any (item.same ·) := by
      rw [laterItems_eq_map, List.any_map]
      congr 1
      funext other
      exact same_later item other
    rw [laterItems, itemsWithin, itemsWithin, found, itemsWithin_later rest others]

theorem entriesWithin_later : ∀ entries others : List (Value × Value),
    entriesWithin (laterEntries count entries) (laterEntries count others) =
      entriesWithin entries others
  | [], _ => by rw [laterEntries, entriesWithin, entriesWithin]
  | (key, content) :: rest, others => by
    have found : ((laterEntries count others).any fun entry =>
        (key.later count).same entry.1 && (content.later count).same entry.2) =
        others.any fun entry => key.same entry.1 && content.same entry.2 := by
      rw [laterEntries_eq_map, List.any_map]
      congr 1
      funext entry
      rw [Function.comp_apply, same_later key entry.1, same_later content entry.2]
    rw [laterEntries, entriesWithin, entriesWithin, found, entriesWithin_later rest others]

end

theorem isAmong_later (v : Value) (items : List Value) :
    (v.later count).isAmong (items.map (later count)) = v.isAmong items := by
  rw [isAmong, isAmong, List.any_map]
  congr 1
  funext item
  exact same_later count item v

/-! ## Keys and copies -/

mutual

theorem unhashable?_later : ∀ v : Value, (v.later count).unhashable? = v.unhashable?
  | .tuple items => by rw [later, unhashable?, unhashable?, firstUnhashable?_later items]
  | .endless _ once => by rw [later, unhashable?, unhashable?, unhashable?_later once]
  | .float x => by cases x <;> rfl
  | .list _ | .map _ | .set _ => by rw [later, unhashable?, unhashable?]
  | .null | .bool _ | .int _ | .str _ | .bytes _ | .date _ | .moment _ | .object _ _ _
  | .callable | .faulty _ _ => by simp [later]

theorem firstUnhashable?_later : ∀ items : List Value,
    firstUnhashable? (laterItems count items) = firstUnhashable? items
  | [] => rfl
  | item :: rest => by
    rw [laterItems, firstUnhashable?, firstUnhashable?, unhashable?_later item,
      firstUnhashable?_later rest]

end

theorem hashable_later (v : Value) : (v.later count).hashable = v.hashable := by
  rw [hashable, hashable, unhashable?_later]

mutual

theorem obstacle?_later : ∀ v : Value, (v.later count).obstacle? = v.obstacle?
  | .list items => by rw [later, obstacle?, obstacle?, itemObstacle?_later items]
  | .tuple items => by rw [later, obstacle?, obstacle?, itemObstacle?_later items]
  | .map entries => by rw [later, obstacle?, obstacle?, entryObstacle?_later entries]
  | .set items => by rw [later, obstacle?, obstacle?, itemObstacle?_later items]
  | .float _ | .endless _ _ => by simp [later, obstacle?]
  | .null | .bool _ | .int _ | .str _ | .bytes _ | .date _ | .moment _ | .object _ _ _
  | .callable | .faulty _ _ => by simp [later]

theorem itemObstacle?_later : ∀ items : List Value,
    itemObstacle? (laterItems count items) = itemObstacle? items
  | [] => rfl
  | item :: rest => by
    rw [laterItems, itemObstacle?, itemObstacle?, obstacle?_later item, itemObstacle?_later rest]

theorem entryObstacle?_later : ∀ entries : List (Value × Value),
    entryObstacle? (laterEntries count entries) = entryObstacle? entries
  | [] => rfl
  | (key, content) :: rest => by
    rw [laterEntries, entryObstacle?, entryObstacle?, obstacle?_later key,
      obstacle?_later content, entryObstacle?_later rest]

end

end Value

/-! ## Definitions -/

/-- The problem in a text that comes so many texts later. -/
def Problem.later (count : Nat) : Problem → Problem
  | workflowWithoutId => workflowWithoutId
  | stepWithoutId label => stepWithoutId (label.later count)
  | repeatedStepId id => repeatedStepId (id.later count)
  | noAgent label => noAgent (label.later count)
  | noAction label => noAction (label.later count)
  | conditionKind label => conditionKind (label.later count)
  | continueKind label => continueKind (label.later count)
  | timeoutRange label => timeoutRange (label.later count)
  | triggerKind kind => triggerKind (kind.later count)

variable (count : Nat)

theorem Problem.text_later (problem : Problem) : (problem.later count).text = problem.text := by
  cases problem <;> simp only [Problem.later, Problem.text, Value.text_later]

/-- Messages name what they are about by its text, so they do not change. -/
theorem Problem.mapM_text_later (problems : List Problem) :
    (problems.map (Problem.later count)).mapM Problem.text = problems.mapM Problem.text := by
  rw [List.mapM_map]
  congr 1
  funext problem
  exact problem.text_later count

namespace Step

variable (step : Step)

theorem later_zero : step.later 0 = step := by simp only [later, Value.later_zero]

theorem label_later (index : Nat) :
    (step.later count).label index = (step.label index).later count := by
  rw [label, label, Value.orElse_later]
  rfl

theorem demand_later (kept : Bool) (problem : Problem) :
    demand kept (problem.later count) = (demand kept problem).map (Problem.later count) := by
  cases kept <;> rfl

theorem idProblems_later (seen : List Value) (index : Nat) :
    (step.later count).idProblems (seen.map (Value.later count)) index =
      (step.idProblems seen index).map (Problem.later count) := by
  have named : (step.later count).id = step.id.later count := rfl
  rw [idProblems, idProblems, label_later, named, Value.truthy_later, Value.isAmong_later]
  split
  · rfl
  · split <;> rfl

theorem problems_later (seen : List Value) (index : Nat) :
    (step.later count).problems (seen.map (Value.later count)) index =
      (step.problems seen index).map (Problem.later count) := by
  simp only [problems, idProblems_later, label_later, List.map_append, ← demand_later]
  simp only [later, Value.truthy_later, Value.isNull_later, Value.isText_later,
    Value.isBool_later, Value.isPositive_later, Problem.later]

theorem messages_later (seen : List Value) (index : Nat) :
    (step.later count).messages (seen.map (Value.later count)) index =
      step.messages seen index := by
  have hashed : (step.later count).id.hashable = step.id.hashable := Value.hashable_later count _
  rw [messages, messages, hashed, problems_later, Problem.mapM_text_later]

theorem obstacle?_later : (step.later count).obstacle? = step.obstacle? := by
  simp only [obstacle?, later, List.findSome?_cons, Value.obstacle?_later]

end Step

namespace Trigger

variable (trigger : Trigger)

theorem later_zero : trigger.later 0 = trigger := by simp only [later, Value.later_zero]

theorem problems_later :
    (trigger.later count).problems = trigger.problems.map (Problem.later count) := by
  simp only [problems, later, Value.isStr_later]
  split <;> rfl

theorem obstacle?_later : (trigger.later count).obstacle? = trigger.obstacle? := by
  simp only [obstacle?, later, List.findSome?_cons, Value.obstacle?_later]

end Trigger

namespace Workflow

variable (workflow : Workflow)

theorem later_zero : workflow.later 0 = workflow := by
  have steps : workflow.steps.map (Step.later 0) = workflow.steps := by
    rw [funext Step.later_zero, List.map_id']
  have trigger : workflow.trigger.map (Trigger.later 0) = workflow.trigger := by
    rw [funext Trigger.later_zero, Option.map_id']
  simp only [later, Value.later_zero, steps, trigger]

/-- The number of a text decides the marks in the definition and nothing else. -/
theorem ofYaml_later (source : List Char) :
    ofYaml count source = (ofYaml 0 source).map (later count) := by
  unfold ofYaml
  split
  · rfl
  · rfl
  · rename_i document read
    split
    · cases ofDocument document with
      | error f => rfl
      | ok workflow => simp only [Except.map, later_zero]
    · rfl

theorem stepMessages_later (steps : List Step) (seen : List Value) (index : Nat) :
    stepMessages (seen.map (Value.later count)) index (steps.map (Step.later count)) =
      stepMessages seen index steps := by
  induction steps generalizing seen index with
  | nil => rfl
  | cons step rest inductionHypothesis =>
    have grown : seen.map (Value.later count) ++ [(step.later count).id] =
        (seen ++ [step.id]).map (Value.later count) := by
      rw [List.map_append]
      rfl
    rw [List.map_cons, stepMessages, stepMessages, Step.messages_later, grown, inductionHypothesis]

/-- A definition is as valid in a later text as it is in the first one. -/
theorem validate_later : (workflow.later count).validate = workflow.validate := by
  have own : (workflow.later count).idProblems =
      workflow.idProblems.map (Problem.later count) := by
    simp only [idProblems, later, Value.truthy_later]
    split <;> rfl
  have steps : stepMessages [] 0 (workflow.later count).steps = stepMessages [] 0 workflow.steps :=
    stepMessages_later count workflow.steps [] 0
  have trigger : (workflow.later count).triggerProblems =
      workflow.triggerProblems.map (Problem.later count) := by
    simp only [triggerProblems, later]
    cases workflow.trigger with
    | none => rfl
    | some trigger => exact trigger.problems_later count
  rw [validate, validate, own, steps, trigger, Problem.mapM_text_later, Problem.mapM_text_later]

theorem obstacle?_later : (workflow.later count).obstacle? = workflow.obstacle? := by
  have steps : (workflow.steps.map (Step.later count)).findSome? Step.obstacle? =
      workflow.steps.findSome? Step.obstacle? := by
    rw [List.findSome?_map]
    congr 1
    funext step
    exact step.obstacle?_later count
  have trigger : (workflow.trigger.map (Trigger.later count)).bind Trigger.obstacle? =
      workflow.trigger.bind Trigger.obstacle? := by
    cases workflow.trigger with
    | none => rfl
    | some trigger => exact trigger.obstacle?_later count
  simp only [obstacle?, later, Value.obstacle?_later, steps, trigger]

end Workflow

end Stepwise
