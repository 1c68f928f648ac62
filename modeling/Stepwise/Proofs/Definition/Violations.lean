import Mathlib.Data.List.Dedup
import Mathlib.Data.Finset.Card
import Stepwise.Proofs.Definition.Sound

/-!
# What validation says

Validation says one thing for every rule that a definition breaks, and nothing else. The rules are
put here without the pass that looks them up: seven for every step and two for the whole. What a
step is asked depends on the ids before it, as an id that was used before is not to be used again.
Steps are taken to have texts as ids, so ids are told apart as texts are.

The message about a trigger tells the kind that the trigger has. A kind that cannot be told is met
by a fault in place of all the messages.
-/

namespace Stepwise

/-- A number above zero or one that is not a number; true is the number one. -/
def Value.IsLimit (v : Value) : Prop :=
  v = .bool true ∨ (∃ n : Int, 0 < n ∧ v = .int n) ∨
    ∃ x : Binary64, x.isAtMostZero = false ∧ v = .float x

/-- What is asked of every step. -/
inductive StepRule where
  | identified
  | distinct
  | agent
  | action
  | condition
  | continuation
  | timeout
  deriving DecidableEq

namespace StepRule

def all : List StepRule :=
  [identified, distinct, agent, action, condition, continuation, timeout]

/-- A step with an id keeps a rule, where other ids come before it. A missing id is not used
again. -/
def IsKept (rule : StepRule) (earlier : List String) (id : String) (step : Step) : Prop :=
  match rule with
  | identified => id ≠ ""
  | distinct => id = "" ∨ id ∉ earlier
  | agent => step.agent.truthy = true
  | action => step.action.truthy = true
  | condition => step.condition = .null ∨ ∃ text, step.condition = .str text
  | continuation => ∃ decided, step.continueOnError = .bool decided
  | timeout => step.timeout = .null ∨ step.timeout.IsLimit

/-- What is said about a step at a place that breaks a rule. A step without an id is named by its
place. -/
def message (rule : StepRule) (place : Nat) (id : String) : String :=
  let name := if id = "" then s!"#{place}" else id
  match rule with
  | identified => s!"Step {name} must have an id"
  | distinct => s!"Duplicate step id '{id}'"
  | agent => s!"Step '{name}' must specify 'agent'"
  | action => s!"Step '{name}' must specify 'action'"
  | condition => s!"Step '{name}' condition must be a string"
  | continuation => s!"Step '{name}' continueOnError must be true or false"
  | timeout => s!"Step '{name}' timeout must be a positive number"

end StepRule

/-- What is asked of a definition: an id, what is asked of the step at each place, and a known kind
of its trigger. -/
inductive Rule where
  | identified
  | step (place : Nat) (rule : StepRule)
  | trigger
  deriving DecidableEq

namespace Rule

/-- A definition whose steps have some ids breaks a rule. -/
def IsBroken (rule : Rule) (workflow : Workflow) (ids : List String) : Prop :=
  match rule with
  | identified => workflow.id.truthy = false
  | step place rule => ∃ id step, ids[place]? = some id ∧ workflow.steps[place]? = some step ∧
      ¬ rule.IsKept (ids.take place) id step
  | trigger => ∃ trigger, workflow.trigger = some trigger ∧
      ∀ kind ∈ Trigger.kinds, trigger.kind ≠ .str kind

/-- What is said about a broken rule, where the steps have some ids and the kind of the trigger has
a text. -/
def message (rule : Rule) (ids : List String) (kind : String) : String :=
  match rule with
  | identified => "Workflow must have an id"
  | step place rule => rule.message place (ids.getD place "")
  | trigger => s!"Trigger type '{kind}' must be one of: event, scheduled, manual"

end Rule

/-- What makes a definition whose steps have some ids ready to be run. -/
structure Workflow.IsReady (workflow : Workflow) (ids : List String) : Prop where
  identified : workflow.id.truthy = true
  named : "" ∉ ids
  distinct : ids.Nodup
  agents : ∀ step ∈ workflow.steps, step.agent.truthy = true
  actions : ∀ step ∈ workflow.steps, step.action.truthy = true
  conditions : ∀ step ∈ workflow.steps,
    step.condition = .null ∨ ∃ text, step.condition = .str text
  continuations : ∀ step ∈ workflow.steps, ∃ decided, step.continueOnError = .bool decided
  timeouts : ∀ step ∈ workflow.steps, step.timeout = .null ∨ step.timeout.IsLimit
  trigger : ∀ trigger ∈ workflow.trigger, ∃ kind ∈ Trigger.kinds, trigger.kind = .str kind

/-! ## The kinds of fields -/

namespace Value

theorem isNull_iff {v : Value} : v.isNull = true ↔ v = .null := by
  cases v <;> simp [isNull]

theorem isText_iff {v : Value} : v.isText = true ↔ ∃ text, v = .str text := by
  cases v <;> simp [isText]

theorem isBool_iff {v : Value} : v.isBool = true ↔ ∃ decided, v = .bool decided := by
  cases v <;> simp [isBool]

theorem isPositive_iff {v : Value} : v.isPositive = true ↔ v.IsLimit := by
  cases v <;> simp [isPositive, IsLimit]

theorem isStr_iff {v : Value} {text : String} : v.isStr text = true ↔ v = .str text :=
  ⟨eq_str_of_isStr, by rintro rfl; simp [isStr]⟩

end Value

/-! ## Steps -/

namespace StepRule

variable {earlier : List String} {id : String} {step : Step} {place : Nat}

theorem mem_all (rule : StepRule) : rule ∈ all := by
  cases rule <;> decide

theorem nodup_all : all.Nodup := by decide

/-- Whether a rule is kept can be found out by looking at the fields. -/
instance decidableIsKept (rule : StepRule) (earlier : List String) (id : String) (step : Step) :
    Decidable (rule.IsKept earlier id step) :=
  match rule with
  | identified => inferInstanceAs (Decidable (id ≠ ""))
  | distinct => inferInstanceAs (Decidable (id = "" ∨ id ∉ earlier))
  | agent => inferInstanceAs (Decidable (step.agent.truthy = true))
  | action => inferInstanceAs (Decidable (step.action.truthy = true))
  | condition => decidable_of_iff (step.condition.isNull = true ∨ step.condition.isText = true)
      (or_congr Value.isNull_iff Value.isText_iff)
  | continuation => decidable_of_iff (step.continueOnError.isBool = true) Value.isBool_iff
  | timeout => decidable_of_iff (step.timeout.isNull = true ∨ step.timeout.isPositive = true)
      (or_congr Value.isNull_iff Value.isPositive_iff)

/-- The rules that a step breaks. -/
def broken (earlier : List String) (id : String) (step : Step) : List StepRule :=
  all.filter fun rule => ¬ rule.IsKept earlier id step

theorem mem_broken {rule : StepRule} :
    rule ∈ broken earlier id step ↔ ¬ rule.IsKept earlier id step := by
  simp [broken, mem_all]

theorem nodup_broken : (broken earlier id step).Nodup := nodup_all.filter _

end StepRule

/-- A list that is gone through without a fault gives what is made of each item. -/
theorem Result.mapM_ok {α β : Type} {act : α → Except Fault β} {made : α → β} {items : List α}
    (each : ∀ item ∈ items, act item = .ok (made item)) :
    items.mapM act = .ok (items.map made) := by
  induction items with
  | nil => rfl
  | cons item rest inductionHypothesis =>
    rw [List.forall_mem_cons] at each
    rw [List.mapM_cons, each.1, inductionHypothesis each.2]
    rfl

theorem Value.isAmong_texts (id : String) (ids : List String) :
    (Value.str id).isAmong (ids.map .str) = decide (id ∈ ids) := by
  rw [Bool.eq_iff_iff, isAmong, List.any_map, List.any_eq_true, decide_eq_true_iff]
  simp [Value.same_str]

namespace Step

variable {earlier : List String} {id : String} {step : Step} {place : Nat}

theorem label_eq (named : step.id = .str id) :
    step.label place = .str (if id = "" then s!"#{place}" else id) := by
  rw [label, named, Value.orElse]
  split <;> simp_all [Value.truthy]

/-- The problem of a step with an id at a place that breaks a rule. -/
def problem (place : Nat) (id : String) (rule : StepRule) : Problem :=
  let name := .str (if id = "" then s!"#{place}" else id)
  match rule with
  | .identified => .stepWithoutId name
  | .distinct => .repeatedStepId (.str id)
  | .agent => .noAgent name
  | .action => .noAction name
  | .condition => .conditionKind name
  | .continuation => .continueKind name
  | .timeout => .timeoutRange name

theorem text_problem (place : Nat) (id : String) (rule : StepRule) :
    (problem place id rule).text = .ok (rule.message place id) := by
  cases rule <;> rfl

/-- The demand of one rule gives a problem exactly when it is broken. -/
theorem demand_isKept (rule : StepRule) :
    demand (decide (rule.IsKept earlier id step)) (problem place id rule) =
      ([rule].filter fun rule => ¬ rule.IsKept earlier id step).map (problem place id) := by
  by_cases kept : rule.IsKept earlier id step <;> simp [demand, kept]

/-- An id is missing, or it was used before, or it is as it should be. -/
theorem idProblems_eq (named : step.id = .str id) :
    step.idProblems (earlier.map .str) place =
      ([.identified, .distinct].filter fun rule : StepRule => ¬ rule.IsKept earlier id step).map
        (problem place id) := by
  rw [idProblems, label_eq named, named, Value.isAmong_texts, Value.truthy]
  by_cases missing : id = ""
  · simp [missing, StepRule.IsKept, problem]
  · by_cases repeated : id ∈ earlier <;> simp [missing, repeated, StepRule.IsKept, problem]

theorem problems_eq (named : step.id = .str id) :
    step.problems (earlier.map .str) place =
      (StepRule.broken earlier id step).map (problem place id) := by
  have agent : step.agent.truthy = decide (StepRule.agent.IsKept earlier id step) := by
    rw [Bool.eq_iff_iff, decide_eq_true_iff]
    rfl
  have action : step.action.truthy = decide (StepRule.action.IsKept earlier id step) := by
    rw [Bool.eq_iff_iff, decide_eq_true_iff]
    rfl
  have condition : (step.condition.isNull || step.condition.isText) =
      decide (StepRule.condition.IsKept earlier id step) := by
    rw [Bool.eq_iff_iff, Bool.or_eq_true, Value.isNull_iff, Value.isText_iff, decide_eq_true_iff]
    rfl
  have continuation : step.continueOnError.isBool =
      decide (StepRule.continuation.IsKept earlier id step) := by
    rw [Bool.eq_iff_iff, Value.isBool_iff, decide_eq_true_iff]
    rfl
  have timeout : (step.timeout.isNull || step.timeout.isPositive) =
      decide (StepRule.timeout.IsKept earlier id step) := by
    rw [Bool.eq_iff_iff, Bool.or_eq_true, Value.isNull_iff, Value.isPositive_iff,
      decide_eq_true_iff]
    rfl
  have apart : StepRule.all = [.identified, .distinct] ++ [.agent] ++ [.action] ++ [.condition] ++
      [.continuation] ++ [.timeout] := rfl
  rw [problems, idProblems_eq named, label_eq named, agent, action, condition, continuation,
    timeout, StepRule.broken, apart]
  simp only [List.filter_append, List.map_append, ← demand_isKept]
  rfl

/-- The problems with a step are told by the messages about the rules that it breaks. -/
theorem messages_eq (named : step.id = .str id) :
    step.messages (earlier.map .str) place =
      .ok ((StepRule.broken earlier id step).map (·.message place id)) := by
  have hashable : step.id.hashable = .ok () := by
    rw [named]
    rfl
  rw [messages, hashable, problems_eq named]
  change List.mapM Problem.text _ = _
  rw [List.mapM_map]
  exact Result.mapM_ok fun rule _ => text_problem place id rule

end Step

/-! ## Definitions -/

namespace Workflow

/-- The rules that steps with some ids break, behind steps with other ids. -/
def brokenSteps (earlier : List String) : List String → List Step → List Rule
  | id :: ids, step :: steps =>
    (StepRule.broken earlier id step).map (Rule.step earlier.length) ++
      brokenSteps (earlier ++ [id]) ids steps
  | _, _ => []

variable {earlier ids : List String} {steps : List Step}

theorem mem_brokenSteps {rule : Rule} : rule ∈ brokenSteps earlier ids steps ↔
    ∃ offset own id step, rule = Rule.step (earlier.length + offset) own ∧ ids[offset]? = some id ∧
      steps[offset]? = some step ∧ ¬ own.IsKept (earlier ++ ids.take offset) id step := by
  induction ids generalizing earlier steps with
  | nil => simp [brokenSteps]
  | cons id ids inductionHypothesis =>
    cases steps with
    | nil => simp [brokenSteps]
    | cons step steps =>
      rw [brokenSteps, List.mem_append, List.mem_map, inductionHypothesis]
      constructor
      · rintro (⟨own, broken, rfl⟩ | ⟨offset, own, id', step', rfl, there, there', broken⟩)
        · exact ⟨0, own, id, step, rfl, rfl, rfl, by simpa using StepRule.mem_broken.mp broken⟩
        · refine ⟨offset + 1, own, id', step', ?_, there, there', ?_⟩
          · rw [List.length_append, List.length_singleton, Nat.add_assoc, Nat.add_comm 1]
          · rw [List.take_succ_cons, List.append_cons]
            exact broken
      · rintro ⟨offset, own, id', step', rfl, there, there', broken⟩
        cases offset with
        | zero =>
          cases there
          cases there'
          exact .inl ⟨own, StepRule.mem_broken.mpr (by simpa using broken), rfl⟩
        | succ offset =>
          refine .inr ⟨offset, own, id', step', ?_, there, there', ?_⟩
          · rw [List.length_append, List.length_singleton, Nat.add_assoc, Nat.add_comm 1]
          · rw [← List.append_cons, ← List.take_succ_cons]
            exact broken

theorem nodup_brokenSteps : (brokenSteps earlier ids steps).Nodup := by
  induction ids generalizing earlier steps with
  | nil => simp [brokenSteps]
  | cons id ids inductionHypothesis =>
    cases steps with
    | nil => simp [brokenSteps]
    | cons step steps =>
      have own : ((StepRule.broken earlier id step).map (Rule.step earlier.length)).Nodup :=
        StepRule.nodup_broken.map fun rule other same => (Rule.step.inj same).2
      refine List.nodup_append.mpr ⟨own, inductionHypothesis, ?_⟩
      intro rule member other member' same
      obtain ⟨rule, -, rfl⟩ := List.mem_map.mp member
      obtain ⟨offset, _, _, _, rfl, -⟩ := mem_brokenSteps.mp member'
      have place := (Rule.step.inj same).1
      rw [List.length_append, List.length_singleton] at place
      omega

/-- The messages about steps are those about the rules that they break. -/
theorem stepMessages_eq (earlier : List String) (kind : String)
    (named : steps.map Step.id = ids.map .str) :
    stepMessages (earlier.map .str) earlier.length steps =
      .ok ((brokenSteps earlier ids steps).map (·.message (earlier ++ ids) kind)) := by
  induction steps generalizing earlier ids with
  | nil =>
    obtain rfl : ids = [] := by simpa using named
    rfl
  | cons step steps inductionHypothesis =>
    cases ids with
    | nil => cases named
    | cons id ids =>
      obtain ⟨own, others⟩ := List.cons.inj named
      have later := inductionHypothesis (earlier ++ [id]) others
      rw [List.map_append, List.map_singleton, ← own, List.length_append, List.length_singleton,
        ← List.append_cons] at later
      have first : (StepRule.broken earlier id step).map (·.message earlier.length id) =
          ((StepRule.broken earlier id step).map (Rule.step earlier.length)).map
            (·.message (earlier ++ id :: ids) kind) := by
        rw [List.map_map]
        refine List.map_congr_left fun rule _ => ?_
        simp [Rule.message]
      rw [stepMessages, Step.messages_eq own, later, brokenSteps, List.map_append, ← first]
      rfl

variable {workflow : Workflow}

theorem any_isStr_eq_false (kind : Value) : Trigger.kinds.any (kind.isStr ·) = false ↔
    ∀ known ∈ Trigger.kinds, kind ≠ .str known := by
  rw [List.any_eq_false]
  exact forall₂_congr fun known _ => not_congr Value.isStr_iff

/-- The rule about its id, if a definition breaks it. -/
def brokenOwn (workflow : Workflow) : List Rule :=
  if workflow.id.truthy then [] else [.identified]

/-- The rule about its trigger, if a definition breaks it. -/
def brokenTrigger (workflow : Workflow) : List Rule :=
  match workflow.trigger with
  | none => []
  | some trigger => if Trigger.kinds.any (trigger.kind.isStr ·) then [] else [.trigger]

/-- The rules that a definition whose steps have some ids breaks, in the order of its parts. -/
def broken (workflow : Workflow) (ids : List String) : List Rule :=
  workflow.brokenOwn ++ brokenSteps [] ids workflow.steps ++ workflow.brokenTrigger

theorem mem_brokenOwn {rule : Rule} : rule ∈ workflow.brokenOwn ↔
    rule = .identified ∧ workflow.id.truthy = false := by
  rw [brokenOwn]
  cases workflow.id.truthy <;> simp

theorem mem_brokenTrigger (ids : List String) {rule : Rule} : rule ∈ workflow.brokenTrigger ↔
    rule = .trigger ∧ Rule.trigger.IsBroken workflow ids := by
  rw [brokenTrigger]
  cases started : workflow.trigger with
  | none => simp [Rule.IsBroken, started]
  | some trigger =>
    have known := any_isStr_eq_false trigger.kind
    cases found : Trigger.kinds.any (trigger.kind.isStr ·) <;>
      simp [Rule.IsBroken, started, ← known, found]

theorem mem_broken {rule : Rule} : rule ∈ workflow.broken ids ↔ rule.IsBroken workflow ids := by
  rw [broken, List.mem_append, List.mem_append, mem_brokenOwn, mem_brokenSteps,
    mem_brokenTrigger ids]
  constructor
  · rintro ((⟨rfl, absent⟩ | ⟨place, own, id, step, rfl, there, there', broken⟩) | ⟨rfl, broken⟩)
    · exact absent
    · rw [List.length_nil, Nat.zero_add]
      exact ⟨id, step, there, there', broken⟩
    · exact broken
  · intro broken
    cases rule with
    | identified => exact .inl (.inl ⟨rfl, broken⟩)
    | step place rule =>
      obtain ⟨id, step, there, there', broken⟩ := broken
      exact .inl (.inr ⟨place, rule, id, step, by simp, there, there', broken⟩)
    | trigger => exact .inr ⟨rfl, broken⟩

theorem nodup_broken : (workflow.broken ids).Nodup := by
  have own : workflow.brokenOwn.Nodup := by
    unfold brokenOwn
    split <;> simp
  have last : workflow.brokenTrigger.Nodup := by
    unfold brokenTrigger
    split
    · simp
    · split <;> simp
  have first : (workflow.brokenOwn ++ brokenSteps [] ids workflow.steps).Nodup := by
    refine List.nodup_append.mpr ⟨own, nodup_brokenSteps, ?_⟩
    rintro rule member _ member' rfl
    obtain ⟨rfl, -⟩ := mem_brokenOwn.mp member
    obtain ⟨_, _, _, _, same, -⟩ := mem_brokenSteps.mp member'
    cases same
  refine List.nodup_append.mpr ⟨first, last, ?_⟩
  rintro rule member _ member' rfl
  obtain ⟨rfl, -⟩ := (mem_brokenTrigger ids).mp member'
  rcases List.mem_append.mp member with member | member
  · cases (mem_brokenOwn.mp member).1
  · obtain ⟨_, _, _, _, same, -⟩ := mem_brokenSteps.mp member
    cases same

theorem mapM_idProblems (ids : List String) (kind : String) : workflow.idProblems.mapM Problem.text =
    .ok (workflow.brokenOwn.map (·.message ids kind)) := by
  rw [idProblems, brokenOwn]
  split <;> rfl

theorem text_triggerKind {kind : Value} {text : String} (told : kind.text = .ok text) :
    (Problem.triggerKind kind).text = .ok (Rule.trigger.message ids text) := by
  have kinds : "' must be one of: " ++ ", ".intercalate Trigger.kinds =
      "' must be one of: event, scheduled, manual" := by decide
  rw [Problem.text, told]
  change Except.ok ("Trigger type '" ++ text ++ "' must be one of: " ++
    ", ".intercalate Trigger.kinds) = _
  rw [String.append_assoc, kinds]
  rfl

/-- The message about a trigger tells its kind. -/
theorem mapM_triggerProblems (ids : List String) {kind : String}
    (told : ∀ trigger ∈ workflow.trigger, trigger.kind.text = .ok kind) :
    workflow.triggerProblems.mapM Problem.text =
      .ok (workflow.brokenTrigger.map (·.message ids kind)) := by
  rw [triggerProblems, brokenTrigger]
  cases started : workflow.trigger with
  | none => rfl
  | some trigger =>
    dsimp only
    rw [Trigger.problems]
    split
    · rfl
    · rw [List.mapM_cons, text_triggerKind (told trigger started)]
      rfl

/-- What is said about a definition is said about the rules that it breaks. -/
theorem validate_eq_broken (named : workflow.steps.map Step.id = ids.map .str) {kind : String}
    (told : ∀ trigger ∈ workflow.trigger, trigger.kind.text = .ok kind) :
    workflow.validate = .ok ((workflow.broken ids).map (·.message ids kind)) := by
  have steps := stepMessages_eq [] kind named
  rw [List.map_nil, List.length_nil, List.nil_append] at steps
  rw [validate, mapM_idProblems ids kind, steps, mapM_triggerProblems ids told,
    broken, List.map_append, List.map_append]
  rfl

/-- A kind of trigger that is not known and cannot be told is met instead of any message. -/
theorem validate_eq_error (named : workflow.steps.map Step.id = ids.map .str) {trigger : Trigger}
    (started : workflow.trigger = some trigger)
    (unknown : ∀ kind ∈ Trigger.kinds, trigger.kind ≠ .str kind) {f : Fault}
    (untold : trigger.kind.text = .error f) : workflow.validate = .error f := by
  have steps := stepMessages_eq [] "" named
  rw [List.map_nil, List.length_nil, List.nil_append] at steps
  have last : workflow.triggerProblems.mapM Problem.text = .error f := by
    rw [triggerProblems, started]
    dsimp only
    rw [Trigger.problems, (any_isStr_eq_false trigger.kind).mpr unknown, if_neg Bool.false_ne_true,
      List.mapM_cons, Problem.text, untold]
    rfl
  rw [validate, mapM_idProblems ids "", steps, last]
  rfl

/-! ## Repeated ids -/

/-- Whether a message says that an id was used before. -/
def tellsRepeated (message : String) : Bool :=
  "Duplicate step id".toList.isPrefixOf message.toList

/-- Whether a rule is that an id is not used again. -/
def isRepetition : Rule → Bool
  | .step _ .distinct => true
  | _ => false

theorem head?_append {start : String} {c : Char} (first : start.toList.head? = some c)
    (rest : String) : (start ++ rest).toList.head? = some c := by
  rw [String.toList_append, List.head?_append, first]
  rfl

theorem tellsRepeated_of_head {message : String} {c : Char} (first : message.toList.head? = some c)
    (other : c ≠ 'D') : tellsRepeated message = false := by
  have start : "Duplicate step id".toList = 'D' :: "uplicate step id".toList := by decide
  cases chars : message.toList with
  | nil =>
    rw [chars] at first
    cases first
  | cons d rest =>
    rw [chars] at first
    obtain rfl : d = c := Option.some.inj first
    rw [tellsRepeated, chars, start, List.isPrefixOf_cons_cons, beq_false_of_ne other.symm]
    rfl

/-- Only the message about the rule that ids are distinct says that an id was used before. -/
theorem tellsRepeated_message (rule : Rule) (ids : List String) (kind : String) :
    tellsRepeated (rule.message ids kind) = isRepetition rule := by
  have step : "Step ".toList.head? = some 'S' := by decide
  have quoted : "Step '".toList.head? = some 'S' := by decide
  cases rule with
  | identified =>
    have start : "Workflow must have an id".toList.head? = some 'W' := by decide
    exact tellsRepeated_of_head start (by decide)
  | step place rule =>
    cases rule with
    | distinct =>
      have start : "Duplicate step id '".toList = "Duplicate step id".toList ++ [' ', '\''] := by
        decide
      change List.isPrefixOf _ ("Duplicate step id '" ++ ids.getD place "" ++ "'").toList = true
      rw [String.toList_append, String.toList_append, start, List.append_assoc, List.append_assoc,
        List.isPrefixOf_iff_prefix]
      exact List.prefix_append _ _
    | identified => exact tellsRepeated_of_head (head?_append (head?_append step _) _) (by decide)
    | _ => exact tellsRepeated_of_head (head?_append (head?_append quoted _) _) (by decide)
  | trigger =>
    have start : "Trigger type '".toList.head? = some 'T' := by decide
    exact tellsRepeated_of_head (head?_append (head?_append start _) _) (by decide)

/-- How many different ids there are in a list, missing ones left out. -/
def countIds (ids : List String) : Nat := (ids.filter (· ≠ "")).dedup.length

theorem countIds_concat (ids : List String) (id : String) :
    countIds (ids ++ [id]) = if id = "" ∨ id ∈ ids then countIds ids else countIds ids + 1 := by
  have card (ids : List String) : countIds ids = (ids.filter (· ≠ "")).toFinset.card :=
    (List.card_toFinset _).symm
  have present : (ids ++ [id]).filter (· ≠ "") =
      ids.filter (· ≠ "") ++ if id = "" then [] else [id] := by
    rw [List.filter_append]
    by_cases missing : id = "" <;> simp [missing]
  rw [card, card, present, List.toFinset_append]
  by_cases missing : id = ""
  · simp [missing]
  · by_cases repeated : id ∈ ids
    · simp [missing, repeated]
    · simp [missing, repeated]

/-- Every id is missing, or there for the first time, or a repetition. -/
theorem countP_brokenSteps (earlier : List String)
    (named : steps.map Step.id = ids.map .str) :
    (brokenSteps earlier ids steps).countP isRepetition + countIds (earlier ++ ids) =
      countIds earlier + (ids.filter (· ≠ "")).length := by
  induction steps generalizing earlier ids with
  | nil =>
    obtain rfl : ids = [] := by simpa using named
    simp [brokenSteps]
  | cons step steps inductionHypothesis =>
    cases ids with
    | nil => cases named
    | cons id ids =>
      have later := inductionHypothesis (earlier ++ [id]) (List.cons.inj named).2
      rw [← List.append_cons, countIds_concat] at later
      have own : ((StepRule.broken earlier id step).map (Rule.step earlier.length)).countP
          isRepetition = if id = "" ∨ id ∉ earlier then 0 else 1 := by
        rw [StepRule.broken, List.countP_map, List.countP_filter]
        by_cases kept : id = "" ∨ id ∉ earlier <;>
          simp [StepRule.all, isRepetition, StepRule.IsKept, kept]
      rw [brokenSteps, List.countP_append, own, List.filter_cons]
      by_cases missing : id = ""
      · simp only [missing, true_or, if_true] at later ⊢
        simpa using later
      · by_cases repeated : id ∈ earlier
        · simp [missing, repeated] at later ⊢
          omega
        · simp [missing, repeated] at later ⊢
          omega

theorem countP_tellsRepeated (named : workflow.steps.map Step.id = ids.map .str) (kind : String) :
    ((workflow.broken ids).map (·.message ids kind)).countP tellsRepeated =
      (ids.filter (· ≠ "")).length - countIds ids := by
  have steps := countP_brokenSteps [] named
  have empty : countIds [] = 0 := rfl
  have own : workflow.brokenOwn.countP isRepetition = 0 := by
    refine List.countP_eq_zero.mpr fun rule member => ?_
    rw [(mem_brokenOwn.mp member).1]
    exact Bool.false_ne_true
  have last : workflow.brokenTrigger.countP isRepetition = 0 := by
    refine List.countP_eq_zero.mpr fun rule member => ?_
    rw [((mem_brokenTrigger ids).mp member).1]
    exact Bool.false_ne_true
  have telling : tellsRepeated ∘ (fun rule : Rule => rule.message ids kind) = isRepetition :=
    funext fun rule => tellsRepeated_message rule ids kind
  rw [List.nil_append, empty, Nat.zero_add] at steps
  rw [List.countP_map, telling, broken, List.countP_append, List.countP_append, own, last]
  omega

/-! ## The verdict -/

/-- A definition whose steps have texts as ids is sound exactly when it is ready to be run. -/
theorem isSound_iff_isReady (named : workflow.steps.map Step.id = ids.map .str) :
    workflow.IsSound ↔ workflow.IsReady ids := by
  have named_iff : (∀ step ∈ workflow.steps, step.id.truthy = true) ↔ "" ∉ ids := by
    have each := List.forall_mem_map (f := Step.id) (l := workflow.steps)
      (P := fun v : Value => v.truthy = true)
    rw [← each, named, List.forall_mem_map]
    simp only [Value.truthy, decide_eq_true_eq]
    exact ⟨fun each member => each "" member rfl,
      fun absent id member missing => absent (missing ▸ member)⟩
  have distinct_iff : (workflow.steps.Pairwise fun earlier step =>
      earlier.id.same step.id = false) ↔ ids.Nodup := by
    have pairs := List.pairwise_map (f := Step.id) (l := workflow.steps)
      (R := fun v w : Value => v.same w = false)
    rw [← pairs, named, List.pairwise_map]
    simp [Value.same_str, List.Nodup]
  have key (step : Step) (member : step ∈ workflow.steps) : step.id.IsKey := by
    have listed : step.id ∈ ids.map .str := named ▸ List.mem_map_of_mem member
    obtain ⟨id, -, text⟩ := List.mem_map.mp listed
    exact text ▸ Value.isKey_str id
  constructor
  · intro sound
    exact {
      identified := sound.identified
      named := named_iff.mp fun step member => (sound.steps step member).identified
      distinct := distinct_iff.mp sound.apart
      agents := fun step member => (sound.steps step member).agent
      actions := fun step member => (sound.steps step member).action
      conditions := fun step member =>
        (sound.steps step member).condition.imp Value.isNull_iff.mp Value.isText_iff.mp
      continuations := fun step member => Value.isBool_iff.mp (sound.steps step member).decided
      timeouts := fun step member =>
        (sound.steps step member).limit.imp Value.isNull_iff.mp Value.isPositive_iff.mp
      trigger := fun trigger member =>
        (sound.trigger trigger member).imp fun _ known => known.imp_right Value.isStr_iff.mp }
  · intro ready
    exact {
      identified := ready.identified
      steps := fun step member => {
        key := key step member
        identified := named_iff.mpr ready.named step member
        agent := ready.agents step member
        action := ready.actions step member
        condition := (ready.conditions step member).imp Value.isNull_iff.mpr Value.isText_iff.mpr
        decided := Value.isBool_iff.mpr (ready.continuations step member)
        limit := (ready.timeouts step member).imp Value.isNull_iff.mpr Value.isPositive_iff.mpr }
      apart := distinct_iff.mpr ready.distinct
      trigger := fun trigger member =>
        (ready.trigger trigger member).imp fun _ known => known.imp_right Value.isStr_iff.mpr }

/-- In a sound definition whose steps have texts as ids, every step is found by its id. -/
theorem IsSound.step?_eq (sound : workflow.IsSound)
    (named : workflow.steps.map Step.id = ids.map .str) {step : Step}
    (member : step ∈ workflow.steps) : workflow.step? step.id = some step := by
  have equal (other : Step) (member : other ∈ workflow.steps) (v : Value) :
      other.id.equal v = other.id.same v := by
    have listed : other.id ∈ ids.map .str := named ▸ List.mem_map_of_mem member
    obtain ⟨id, -, text⟩ := List.mem_map.mp listed
    rw [← text, Value.equal]
    rfl
  obtain ⟨before, behind, split⟩ := List.append_of_mem member
  have apart := sound.apart
  rw [split, List.pairwise_append] at apart
  have own : step.id.same step.id = true :=
    Value.same_self step.id
  rw [step?, split, List.find?_append, List.find?_eq_none.mpr fun other earlier => ?_,
    List.find?_cons_of_pos]
  · rfl
  · rw [equal step member, own]
  · have listed : other ∈ workflow.steps := split ▸ List.mem_append_left _ earlier
    rw [equal other listed, apart.2.2 other earlier step List.mem_cons_self]
    exact Bool.false_ne_true

/-- What validation comes to for a definition whose steps have some ids. -/
structure IsJudged (workflow : Workflow) (ids : List String) : Prop where
  silent : workflow.validate = .ok [] ↔ workflow.IsReady ids
  told : ∀ kind, (∀ trigger ∈ workflow.trigger, trigger.kind.text = .ok kind) →
    ∃ broken : List Rule, broken.Nodup ∧ (∀ rule, rule ∈ broken ↔ rule.IsBroken workflow ids) ∧
      workflow.validate = .ok (broken.map (·.message ids kind)) ∧
      (broken.map (·.message ids kind)).countP tellsRepeated =
        (ids.filter (· ≠ "")).length - (ids.filter (· ≠ "")).dedup.length
  untold : ∀ trigger f, workflow.trigger = some trigger →
    (∀ kind ∈ Trigger.kinds, trigger.kind ≠ .str kind) → trigger.kind.text = .error f →
      workflow.validate = .error f
  found : workflow.validate = .ok [] →
    ∀ step ∈ workflow.steps, workflow.step? step.id = some step

/-- Validation of a definition whose steps have texts as ids has one message for every rule that is
broken, and none exactly when the definition is ready to be run. Then every step is found by its id.
A kind of trigger that is not known and has no text is met by its fault. -/
theorem validate_judges (workflow : Workflow) (ids : List String)
    (named : workflow.steps.map Step.id = ids.map .str) : workflow.IsJudged ids where
  silent := validate_eq_nil_iff.trans (isSound_iff_isReady named)
  told kind told := ⟨workflow.broken ids, nodup_broken, fun _ => mem_broken,
    validate_eq_broken named told, countP_tellsRepeated named kind⟩
  untold _ _ started unknown untold := validate_eq_error named started unknown untold
  found silent _ member := (validate_eq_nil_iff.mp silent).step?_eq named member

/-- A step whose other fields are in order. -/
def stepOf (id agent action : String) (condition timeout : Value) : Step where
  id := .str id
  agent := .str agent
  action := .str action
  input := .map []
  output := .null
  condition := condition
  continueOnError := .bool false
  timeout := timeout

/-- A definition without id, in which an id is used twice, an agent and an id are missing, a limit
is zero, a condition is no text, and the trigger is of a kind that does not exist. -/
def careless : Workflow where
  id := .str ""
  name := .str ""
  steps := [stepOf "s1" "a" "x" .null .null, stepOf "s1" "a" "y" .null .null,
    stepOf "s2" "" "z" .null (.int 0), stepOf "" "a" "w" (.bool true) .null]
  description := .str ""
  trigger := some ⟨.str "webhook", .null, .null⟩

theorem careless_judged :
    careless.steps.map Step.id = ["s1", "s1", "s2", ""].map .str ∧
      careless.IsJudged ["s1", "s1", "s2", ""] :=
  ⟨rfl, validate_judges careless ["s1", "s1", "s2", ""] rfl⟩

/-- A definition with nothing wrong but a trigger whose kind has no text. -/
def untellable : Workflow where
  id := .str "letters"
  name := .str "letters"
  steps := []
  description := .str ""
  trigger := some ⟨.faulty ⟨.host 0, 0⟩ "no text", .null, .null⟩

/-- The rule about the trigger is broken, and no message is given about it. -/
theorem no_message_of_untellable :
    untellable.steps.map Step.id = ([] : List String).map .str ∧
      Rule.trigger.IsBroken untellable [] ∧
      ∀ messages, untellable.validate ≠ .ok messages := by
  refine ⟨rfl, ⟨_, rfl, ?_⟩, ?_⟩
  · rintro kind - ⟨⟩
  · rintro messages ⟨⟩

end Workflow

end Stepwise
