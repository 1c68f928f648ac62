import Stepwise.Proofs.Definition.Accepted
import Stepwise.Proofs.Value.Key

/-!
# Sound definitions

Validation goes through a definition and collects what there is to say against it. Nothing is said
exactly when the definition is sound, which is put here without the messages: what is needed is
there, every field has the kind it must have, and no two steps have the same id. Host objects matter
to this only as ids that are compared, and copies are told apart as their originals are. So a copy
of a sound definition is sound.
-/

namespace Stepwise

/-! ## Copies -/

/-- The leaf of a value with other identities for its host objects. -/
def Leaf.relabel (change : Identity → Identity) : Leaf → Leaf
  | host identity => host (change identity)
  | leaf => leaf

theorem Leaf.relabel_injective {change : Identity → Identity}
    (injective : Function.Injective change) : Function.Injective (Leaf.relabel change) := by
  intro leaf other same
  cases leaf with
  | host identity =>
    cases other with
    | host identity' => rw [injective (Leaf.host.inj same)]
    | _ => cases same
  | _ =>
    cases other with
    | host identity' => cases same
    | _ => exact same

namespace Value

variable {change : Identity → Identity}

theorem leaf?_relabel (change : Identity → Identity) (v : Value) :
    (v.relabel change).leaf? = v.leaf?.map (Leaf.relabel change) := by
  cases v with
  | float x =>
    simp only [relabel, leaf?]
    split <;> rfl
  | moment m =>
    simp only [relabel, leaf?, Option.map_some]
    split <;> rfl
  | _ => simp [relabel, leaf?, Leaf.relabel]

theorem same_relabel_of_leaf (injective : Function.Injective change) {v : Value} {leaf : Leaf}
    (known : v.leaf? = some leaf) (w : Value) :
    (v.relabel change).same (w.relabel change) = v.same w := by
  have moved : (v.relabel change).leaf? = some (leaf.relabel change) := by
    rw [leaf?_relabel, known, Option.map_some]
  rw [Bool.eq_iff_iff, same_of_leaf moved, same_of_leaf known, leaf?_relabel,
    ← Option.map_some (f := Leaf.relabel change)]
  exact (Option.map_injective (Leaf.relabel_injective injective)).eq_iff

mutual

/-- Keys are told apart under other identities when these are told apart. -/
theorem same_relabel (injective : Function.Injective change) : ∀ v w : Value,
    v.unhashable? = none → (v.relabel change).same (w.relabel change) = v.same w
  | .tuple items, w, hashable => by
    rw [unhashable?] at hashable
    cases w with
    | tuple others =>
      rw [relabel, relabel, same, same, itemsSame_relabel injective items others hashable]
    | _ => simp [relabel, same, leafSame, leaf?]
  | .endless text once, w, _ => by
    cases w with
    | endless other twice => simp [relabel, same]
    | _ => simp [relabel, same, leafSame, leaf?]
  | .float x, w, _ => by
    cases whole : x.toInt? with
    | some n =>
      have form : (float x).leaf? = some (.number n) := by rw [leaf?, whole]
      exact same_relabel_of_leaf injective form w
    | none =>
      have form : (float x).leaf? = some (.fraction x) := by rw [leaf?, whole]
      exact same_relabel_of_leaf injective form w
  | .null, w, _ | .bool _, w, _ | .int _, w, _ | .str _, w, _ | .bytes _, w, _ | .date _, w, _
  | .moment _, w, _ | .object _ _ _, w, _ | .callable, w, _ | .faulty _ _, w, _ =>
    same_relabel_of_leaf injective rfl w

theorem itemsSame_relabel (injective : Function.Injective change) : ∀ items others : List Value,
    firstUnhashable? items = none →
      itemsSame (relabelItems change items) (relabelItems change others) = itemsSame items others
  | [], [], _ => rfl
  | [], _ :: _, _ | _ :: _, [], _ => by simp [relabelItems, itemsSame]
  | item :: rest, other :: others, hashable => by
    rw [firstUnhashable?, Option.or_eq_none_iff] at hashable
    rw [relabelItems, relabelItems, itemsSame, itemsSame,
      same_relabel injective item other hashable.1,
      itemsSame_relabel injective rest others hashable.2]

end

mutual

theorem unhashable?_relabel (change : Identity → Identity) : ∀ v : Value,
    (v.relabel change).unhashable? = v.unhashable?
  | .tuple items => by rw [relabel, unhashable?, unhashable?, firstUnhashable?_relabel change items]
  | .list _ | .map _ | .set _ => by rw [relabel, unhashable?, unhashable?]
  | .null | .bool _ | .int _ | .float _ | .str _ | .bytes _ | .date _ | .moment _ | .object _ _ _
  | .callable | .faulty _ _ | .endless _ _ => by simp [relabel, unhashable?]

theorem firstUnhashable?_relabel (change : Identity → Identity) : ∀ items : List Value,
    firstUnhashable? (relabelItems change items) = firstUnhashable? items
  | [] => rfl
  | item :: rest => by
    rw [relabelItems, firstUnhashable?, firstUnhashable?, unhashable?_relabel change item,
      firstUnhashable?_relabel change rest]

end

variable {v w : Value}

/-- Copies of keys are the same when they are copies of keys that are. -/
theorem same_copied (key : v.IsKey) : v.copied.same w.copied = v.same w := by
  have injective : Function.Injective
      fun identity : Identity => { identity with copies := identity.copies + 1 } := by
    intro identity other same
    cases identity
    cases other
    simpa using same
  have hashable : v.unhashable? = none := by
    unfold IsKey Value.hashable at key
    split at key
    · assumption
    · cases key
  rw [copied_eq_relabel, copied_eq_relabel]
  exact same_relabel injective v w hashable

theorem hashable_copied (v : Value) : v.copied.hashable = v.hashable := by
  rw [hashable, hashable, copied_eq_relabel, unhashable?_relabel]

theorem truthy_copied (v : Value) : v.copied.truthy = v.truthy := by
  rw [copied_eq_relabel, truthy_relabel]

theorem isNull_copied (v : Value) : v.copied.isNull = v.isNull := by
  cases v <;> simp [copied, isNull]

theorem isText_copied (v : Value) : v.copied.isText = v.isText := by
  cases v <;> simp [copied, isText]

theorem isBool_copied (v : Value) : v.copied.isBool = v.isBool := by
  cases v <;> simp [copied, isBool]

theorem isPositive_copied (v : Value) : v.copied.isPositive = v.isPositive := by
  cases v <;> simp [copied, isPositive]

end Value

/-! ## Steps -/

/-- What is asked of a step by itself. -/
structure Step.IsSound (step : Step) : Prop where
  key : step.id.IsKey
  identified : step.id.truthy = true
  agent : step.agent.truthy = true
  action : step.action.truthy = true
  condition : step.condition.isNull = true ∨ step.condition.isText = true
  decided : step.continueOnError.isBool = true
  limit : step.timeout.isNull = true ∨ step.timeout.isPositive = true

namespace Step

variable {step : Step} {steps : List Step} {seen : List Value} {index : Nat}

/-- Nothing is said about the id of a step when it has one that was not seen before. -/
theorem idProblems_eq_nil_iff : step.idProblems seen index = [] ↔
    step.id.truthy = true ∧ step.id.isAmong seen = false := by
  unfold idProblems
  split
  · rename_i absent
    simp_all
  · split
    · rename_i repeated
      simp [repeated]
    · rename_i present apart
      simp_all

theorem messages_eq_nil_iff : step.messages seen index = .ok [] ↔
    step.IsSound ∧ step.id.isAmong seen = false := by
  have silent : step.messages seen index = .ok [] ↔
      step.id.IsKey ∧ step.problems seen index = [] := by
    constructor
    · intro said
      obtain ⟨_, key, said⟩ := Result.bind_ok said
      exact ⟨key, Result.mapM_nil said⟩
    · rintro ⟨key, none⟩
      rw [messages, key, none]
      rfl
  rw [silent]
  simp only [problems, List.append_eq_nil_iff, idProblems_eq_nil_iff, demand_eq_nil,
    Bool.or_eq_true]
  constructor
  · rintro ⟨key, ⟨⟨⟨⟨⟨identified, apart⟩, agent⟩, action⟩, condition⟩, decided⟩, limit⟩
    exact ⟨⟨key, identified, agent, action, condition, decided, limit⟩, apart⟩
  · rintro ⟨sound, apart⟩
    exact ⟨sound.key, ⟨⟨⟨⟨⟨sound.identified, apart⟩, sound.agent⟩, sound.action⟩,
      sound.condition⟩, sound.decided⟩, sound.limit⟩

/-- The copy of a sound step is sound. -/
theorem IsSound.copied (sound : step.IsSound) : step.copied.IsSound where
  key := (Value.hashable_copied step.id).trans sound.key
  identified := (Value.truthy_copied step.id).trans sound.identified
  agent := (Value.truthy_copied step.agent).trans sound.agent
  action := (Value.truthy_copied step.action).trans sound.action
  condition := by
    change step.condition.copied.isNull = true ∨ step.condition.copied.isText = true
    rw [Value.isNull_copied, Value.isText_copied]
    exact sound.condition
  decided := (Value.isBool_copied step.continueOnError).trans sound.decided
  limit := by
    change step.timeout.copied.isNull = true ∨ step.timeout.copied.isPositive = true
    rw [Value.isNull_copied, Value.isPositive_copied]
    exact sound.limit

end Step

/-! ## Workflows -/

namespace Workflow

variable {workflow : Workflow}

/-- What is asked of a workflow: an id, sound steps, of which no two have the same id, and a trigger
of a known kind if there is one. -/
structure IsSound (workflow : Workflow) : Prop where
  identified : workflow.id.truthy = true
  steps : ∀ step ∈ workflow.steps, step.IsSound
  apart : workflow.steps.Pairwise fun earlier step => earlier.id.same step.id = false
  trigger : ∀ trigger ∈ workflow.trigger, ∃ kind ∈ Trigger.kinds, trigger.kind.isStr kind = true

/-- Nothing is said about steps when they are sound, and neither ids seen before nor the ids of each
other are repeated. -/
theorem stepMessages_eq_nil_iff {steps : List Step} {seen : List Value} {index : Nat} :
    stepMessages seen index steps = .ok [] ↔
      (∀ step ∈ steps, step.IsSound ∧ step.id.isAmong seen = false) ∧
        steps.Pairwise fun earlier step => earlier.id.same step.id = false := by
  induction steps generalizing seen index with
  | nil => simp [stepMessages]
  | cons step rest inductionHypothesis =>
    have split : stepMessages seen index (step :: rest) = .ok [] ↔
        step.messages seen index = .ok [] ∧
          stepMessages (seen ++ [step.id]) (index + 1) rest = .ok [] := by
      constructor
      · intro said
        obtain ⟨first, own, said⟩ := Result.bind_ok said
        obtain ⟨others, later, said⟩ := Result.bind_ok said
        obtain ⟨rfl, rfl⟩ := List.append_eq_nil_iff.mp (Except.ok.inj said)
        exact ⟨own, later⟩
      · rintro ⟨own, later⟩
        rw [stepMessages, own]
        change (do
          let others ← stepMessages (seen ++ [step.id]) (index + 1) rest
          return [] ++ others) = _
        rw [later]
        rfl
    have among (v : Value) : v.isAmong (seen ++ [step.id]) = false ↔
        v.isAmong seen = false ∧ step.id.same v = false := by
      simp [Value.isAmong]
    rw [split, Step.messages_eq_nil_iff, inductionHypothesis, List.forall_mem_cons,
      List.pairwise_cons]
    simp only [among]
    constructor
    · rintro ⟨own, others, apart⟩
      exact ⟨⟨own, fun other member => ⟨(others other member).1, (others other member).2.1⟩⟩,
        fun other member => (others other member).2.2, apart⟩
    · rintro ⟨⟨own, others⟩, unlike, apart⟩
      exact ⟨own, fun other member => ⟨(others other member).1, (others other member).2,
        unlike other member⟩, apart⟩

theorem idProblems_eq_nil_iff : workflow.idProblems = [] ↔ workflow.id.truthy = true := by
  unfold idProblems
  split <;> simp_all

theorem triggerProblems_eq_nil_iff : workflow.triggerProblems = [] ↔
    ∀ trigger ∈ workflow.trigger, ∃ kind ∈ Trigger.kinds, trigger.kind.isStr kind = true := by
  unfold triggerProblems
  cases workflow.trigger with
  | none => simp
  | some trigger =>
    have one : (∀ given ∈ some trigger, ∃ kind ∈ Trigger.kinds, given.kind.isStr kind = true) ↔
        Trigger.kinds.any (trigger.kind.isStr ·) = true := by
      rw [List.any_eq_true]
      exact ⟨fun each => each trigger rfl, fun known given same => Option.mem_some.mp same ▸ known⟩
    rw [one]
    change trigger.problems = [] ↔ _
    rw [Trigger.problems]
    split <;> simp_all

/-- Nothing is said about a definition exactly when it is sound. -/
theorem validate_eq_nil_iff : workflow.validate = .ok [] ↔ workflow.IsSound := by
  constructor
  · intro silent
    obtain ⟨own, steps, trigger⟩ := of_validate silent
    obtain ⟨each, apart⟩ := stepMessages_eq_nil_iff.mp steps
    exact ⟨idProblems_eq_nil_iff.mp own, fun step member => (each step member).1, apart,
      triggerProblems_eq_nil_iff.mp trigger⟩
  · intro sound
    have steps : stepMessages [] 0 workflow.steps = .ok [] :=
      stepMessages_eq_nil_iff.mpr ⟨fun step member => ⟨sound.steps step member, rfl⟩, sound.apart⟩
    rw [validate, idProblems_eq_nil_iff.mpr sound.identified, steps,
      triggerProblems_eq_nil_iff.mpr sound.trigger]
    rfl

/-- The copy of a sound definition is sound. -/
theorem IsSound.copied (sound : workflow.IsSound) : workflow.copied.IsSound where
  identified := (Value.truthy_copied workflow.id).trans sound.identified
  steps := by
    intro step member
    obtain ⟨given, known, rfl⟩ := List.mem_map.mp member
    exact (sound.steps given known).copied
  apart := by
    have keys : workflow.steps.Pairwise fun earlier step =>
        earlier.copied.id.same step.copied.id = false :=
      sound.apart.imp_of_mem fun {earlier step} member _ unlike =>
        (Value.same_copied (sound.steps earlier member).key).trans unlike
    exact List.pairwise_map.mpr keys
  trigger := by
    intro trigger member
    obtain ⟨given, known, rfl⟩ := Option.map_eq_some_iff.mp member
    obtain ⟨kind, listed, named⟩ := sound.trigger given known
    refine ⟨kind, listed, ?_⟩
    rw [Trigger.copied, Value.eq_str_of_isStr named]
    simp [Value.copied, Value.isStr]

end Workflow

end Stepwise
