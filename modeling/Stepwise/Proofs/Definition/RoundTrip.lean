import Stepwise.Definition.Document
import Stepwise.Proofs.Definition.Sound
import Stepwise.Proofs.Json.Forms

/-!
# Definitions come back from their documents

The document of a definition leaves out what says nothing. A field that is left out is read as its
default, so that what comes back is the definition in its tidy form, with the default in the place
of everything else that says nothing. For the other fields to come back it takes a definition
without problems: its id is there, and so is its name, and whether a step continues is a truth
value.
-/

namespace Stepwise

/-! ## Fields that may be left out -/

namespace Value

variable {v fallback : Value}

theorem truthy_orElse (empty : fallback.truthy = false) :
    (v.orElse fallback).truthy = v.truthy := by
  unfold orElse
  split
  · rfl
  · rename_i falsy
    rw [empty]
    simpa using falsy

/-- A default changes nothing where something is said, or where the default itself stands. -/
theorem orElse_eq_self_iff : v.orElse fallback = v ↔ v.truthy = true ∨ v = fallback := by
  unfold orElse
  split
  · rename_i truthy
    simp [truthy]
  · rename_i falsy
    simp [falsy, eq_comm]

/-- When nothing but the default is equal to it, what a default changes is not equal either. -/
theorem same_orElse_iff (alone : ∀ w, fallback.same w = true → w = fallback) :
    (v.orElse fallback).same v = true ↔ v.truthy = true ∨ v = fallback := by
  rw [← orElse_eq_self_iff]
  constructor
  · intro same
    rw [orElse_eq_self_iff]
    unfold orElse at same
    split at same
    · exact .inl ‹_›
    · exact .inr (alone v same)
  · intro kept
    rw [kept]
    exact same_self v

/-- Nothing but null stands for null. -/
theorem eq_null_of_same (w : Value) (same : null.same w = true) : w = null := by
  have leaf : w.leaf? = some .null := (same_of_leaf rfl w).mp same
  cases w with
  | null => rfl
  | float x =>
    rw [leaf?] at leaf
    split at leaf <;> simp at leaf
  | moment m =>
    rw [leaf?] at leaf
    split at leaf <;> simp at leaf
  | _ => simp [leaf?] at leaf

theorem eq_str_of_same_left (text : String) (w : Value) (same : (str text).same w = true) :
    w = str text := by
  have leaf : w.leaf? = some (.text text) := (same_of_leaf rfl w).mp same
  exact eq_str_of_same ((same_of_leaf leaf (.str text)).mpr rfl)

theorem getOr_map (entries : List (Value × Value)) (key : String) (fallback : Value) :
    (map entries).getOr key fallback = .ok ((Table.find? (.str key) entries).getD fallback) := rfl

/-- A field that is left out unless it says something, as it is read. -/
theorem getD_of_truthy : (if v.truthy then some v else none).getD fallback = v.orElse fallback := by
  unfold orElse
  split <;> rfl

/-- A field that is left out when it is null, as it is read. -/
theorem getD_of_isNull : (if !v.isNull then some v else none).getD .null = v := by
  cases v <;> rfl

/-- A truth value that is left out unless it is true, as it is read. -/
theorem getD_of_isBool (decided : v.isBool = true) :
    (if v.truthy then some (.bool true) else none).getD (.bool false) = v := by
  cases v with
  | bool b => cases b <;> rfl
  | _ => cases decided

end Value

theorem Table.find?_append {α : Type} (key : Value) (table others : Table α) :
    Table.find? key (table ++ others) = (table.find? key).or (others.find? key) := by
  induction table with
  | nil => rfl
  | cons entry rest inductionHypothesis =>
    rw [List.cons_append, find?, find?]
    split
    · rfl
    · exact inductionHypothesis

/-- An entry is found when it is present, and under its own key. -/
theorem find?_entryIf {key other : String} (present : Bool) (content : Value) :
    Table.find? (.str key) (entryIf present other content) =
      if other = key then (if present then some content else none) else none := by
  unfold entryIf
  cases present <;> simp [Table.find?]

/-- What is left out is left out in its tidy form as well. -/
theorem entryIf_orElse {v fallback : Value} (empty : fallback.truthy = false) (key : String) :
    entryIf (v.orElse fallback).truthy key (v.orElse fallback) = entryIf v.truthy key v := by
  rw [Value.truthy_orElse empty]
  unfold entryIf Value.orElse
  split <;> rfl

/-! ## Steps -/

namespace Step

variable {step : Step}

/-- The step with null for an output that says nothing. -/
def tidied (step : Step) : Step := { step with output := step.output.orElse .null }

/-- An output that says nothing is null. -/
def IsTidy (step : Step) : Prop := step.output.truthy = true ∨ step.output = .null

theorem tidied_eq_self_iff : step.tidied = step ↔ step.IsTidy := by
  rw [IsTidy, ← Value.orElse_eq_self_iff]
  exact ⟨fun same => congrArg output same, fun same => by rw [tidied, same]⟩

/-- The document of a step whose input is its own copy. -/
def record (step : Step) : Value :=
  .map ([(.str "id", step.id), (.str "agent", step.agent), (.str "action", step.action),
      (.str "input", step.input)] ++
    entryIf step.output.truthy "output" step.output ++
    entryIf (!step.condition.isNull) "condition" step.condition ++
    entryIf step.continueOnError.truthy "continueOnError" (.bool true) ++
    entryIf (!step.timeout.isNull) "timeout" step.timeout)

theorem document_of_isData (data : step.input.isData = true) :
    step.document = .ok step.record := by
  rw [document, Value.copy_of_isData data]
  rfl

theorem record_tidied (step : Step) : step.tidied.record = step.record := by
  rw [record, tidied, entryIf_orElse rfl]
  rfl

/-- A step is read back from its document in its tidy form. -/
theorem ofDocument_record (data : step.input.isData = true)
    (decided : step.continueOnError.isBool = true) : ofDocument step.record = .ok step.tidied := by
  have copied : step.input.copy = .ok step.input := Value.copy_of_isData data
  -- Each field is looked up among all entries, and is found among those under its own key.
  simp only [ofDocument, record, Value.getOr_map, Table.find?_append, find?_entryIf, Table.find?,
    Value.same_str]
  simp only [String.reduceEq, decide_true, decide_false, reduceIte, Bool.false_eq_true,
    Option.none_or, Option.or_none, Option.getD_some, Option.getD_none, Value.getD_of_truthy,
    Value.getD_of_isNull, Value.getD_of_isBool decided, bind, Except.bind, pure, Except.pure,
    copied, tidied]

theorem map_tidied_iff {steps : List Step} :
    steps.map tidied = steps ↔ ∀ step ∈ steps, step.IsTidy := by
  induction steps with
  | nil => simp
  | cons step rest inductionHypothesis =>
    rw [List.map_cons, List.cons.injEq, inductionHypothesis, tidied_eq_self_iff,
      List.forall_mem_cons]

/-- The steps of a list of documents, each of which is one of a step. -/
theorem stepsOfDocuments_record (workflow : Value) {steps : List Step}
    (data : ∀ step ∈ steps, step.input.isData = true)
    (decided : ∀ step ∈ steps, step.continueOnError.isBool = true) :
    Workflow.stepsOfDocuments workflow (steps.map record) = .ok (steps.map tidied) := by
  induction steps with
  | nil => rfl
  | cons step rest inductionHypothesis =>
    rw [List.forall_mem_cons] at data decided
    rw [List.map_cons, Workflow.stepsOfDocuments, if_pos (show step.record.isMap = true from rfl),
      ofDocument_record data.1 decided.1, inductionHypothesis data.2 decided.2]
    rfl

theorem sameAs_tidied (finite : step.input.isEndless = false) :
    ∃ same, step.tidied.sameAs step = .ok same ∧ (same = true ↔ step.IsTidy) := by
  refine ⟨step.tidied.output.same step.output, ?_, Value.same_orElse_iff Value.eq_null_of_same⟩
  simp [sameAs, tidied, Value.same_self, finite]

theorem allSame_tidied {steps : List Step} (finite : ∀ step ∈ steps, step.input.isEndless = false) :
    ∃ same, allSame (steps.map tidied) steps = .ok same ∧
      (same = true ↔ ∀ step ∈ steps, step.IsTidy) := by
  induction steps with
  | nil => exact ⟨true, rfl, by simp⟩
  | cons step rest inductionHypothesis =>
    rw [List.forall_mem_cons] at finite
    obtain ⟨own, compared, tidy⟩ := sameAs_tidied finite.1
    obtain ⟨others, rested, tidies⟩ := inductionHypothesis finite.2
    rw [List.map_cons, allSame, compared]
    refine ⟨own && others, ?_, by rw [Bool.and_eq_true, tidy, tidies, List.forall_mem_cons]⟩
    cases own with
    | true => exact rested
    | false => rfl

end Step

/-! ## Triggers -/

namespace Trigger

variable {trigger : Trigger}

/-- The trigger with null for an event and for a schedule that say nothing. -/
def tidied (trigger : Trigger) : Trigger :=
  { trigger with event := trigger.event.orElse .null, cron := trigger.cron.orElse .null }

/-- An event or a schedule that says nothing is null. -/
def IsTidy (trigger : Trigger) : Prop :=
  (trigger.event.truthy = true ∨ trigger.event = .null) ∧
    (trigger.cron.truthy = true ∨ trigger.cron = .null)

theorem tidied_eq_self_iff : trigger.tidied = trigger ↔ trigger.IsTidy := by
  rw [IsTidy, ← Value.orElse_eq_self_iff, ← Value.orElse_eq_self_iff]
  constructor
  · exact fun same => ⟨congrArg event same, congrArg cron same⟩
  · rintro ⟨event, cron⟩
    rw [tidied, event, cron]

theorem document_tidied (trigger : Trigger) : trigger.tidied.document = trigger.document := by
  rw [document, tidied, entryIf_orElse rfl, entryIf_orElse rfl]
  rfl

/-- A trigger is read back from its document in its tidy form. -/
theorem ofDocument_document (trigger : Trigger) :
    ofDocument trigger.document = .ok trigger.tidied := by
  simp only [ofDocument, document, Value.getOr_map, List.cons_append, Table.find?,
    Table.find?_append, find?_entryIf, Value.same_str]
  simp only [String.reduceEq, decide_true, decide_false, reduceIte, Bool.false_eq_true,
    Option.none_or, Option.or_none, Option.getD_some, Value.getD_of_truthy, bind, Except.bind,
    pure, Except.pure, tidied]

theorem sameAs_tidied : trigger.tidied.sameAs trigger = true ↔ trigger.IsTidy := by
  simp only [sameAs, tidied, Value.same_self, Bool.true_and, Bool.and_eq_true, IsTidy,
    Value.same_orElse_iff Value.eq_null_of_same]

end Trigger

/-! ## Workflows -/

namespace Workflow

variable {workflow : Workflow}

/-- The workflow with its default for everything that says nothing. -/
def tidied (workflow : Workflow) : Workflow :=
  { workflow with
    steps := workflow.steps.map Step.tidied
    description := workflow.description.orElse (.str "")
    trigger := workflow.trigger.map Trigger.tidied }

/-- Everything that says nothing is its default: the empty text for the description and null for the
output of a step and for the event and the schedule of the trigger. -/
structure IsTidy (workflow : Workflow) : Prop where
  description : workflow.description.truthy = true ∨ workflow.description = .str ""
  steps : ∀ step ∈ workflow.steps, step.IsTidy
  trigger : ∀ trigger ∈ workflow.trigger, trigger.IsTidy

/-- The entry of the trigger, if there is one. -/
def triggerEntries (trigger : Option Trigger) : List (Value × Value) :=
  match trigger with
  | none => []
  | some trigger => [(.str "trigger", trigger.document)]

/-- The entries of the document of a workflow with steps whose inputs are their own copies. -/
def entries (workflow : Workflow) : List (Value × Value) :=
  [(.str "id", workflow.id), (.str "name", workflow.name),
      (.str "steps", .list (workflow.steps.map Step.record))] ++
    entryIf workflow.description.truthy "description" workflow.description ++
    triggerEntries workflow.trigger

theorem document_of_isData (data : ∀ step ∈ workflow.steps, step.input.isData = true) :
    workflow.document = .ok (.map workflow.entries) := by
  have listed : workflow.steps.mapM Step.document = .ok (workflow.steps.map Step.record) := by
    generalize workflow.steps = steps at data
    induction steps with
    | nil => rfl
    | cons step rest inductionHypothesis =>
      rw [List.forall_mem_cons] at data
      rw [List.mapM_cons, Step.document_of_isData data.1, inductionHypothesis data.2]
      rfl
  rw [document, listed]
  rfl

theorem entries_tidied (workflow : Workflow) : workflow.tidied.entries = workflow.entries := by
  have steps : (workflow.steps.map Step.tidied).map Step.record =
      workflow.steps.map Step.record := by
    rw [List.map_map]
    exact List.map_congr_left fun step _ => step.record_tidied
  have trigger : triggerEntries (workflow.trigger.map Trigger.tidied) =
      triggerEntries workflow.trigger := by
    cases workflow.trigger with
    | none => rfl
    | some trigger => rw [Option.map_some, triggerEntries, trigger.document_tidied, triggerEntries]
  rw [entries, entries, tidied, entryIf_orElse rfl]
  dsimp only
  rw [steps, trigger]

theorem tidied_eq_self_iff : workflow.tidied = workflow ↔ workflow.IsTidy := by
  obtain ⟨id, name, steps, description, trigger⟩ := workflow
  have triggers : trigger.map Trigger.tidied = trigger ↔ ∀ t ∈ trigger, t.IsTidy := by
    cases trigger with
    | none => simp
    | some t => simp [Trigger.tidied_eq_self_iff]
  constructor
  · intro same
    exact ⟨Value.orElse_eq_self_iff.mp (congrArg Workflow.description same),
      Step.map_tidied_iff.mp (congrArg Workflow.steps same),
      triggers.mp (congrArg Workflow.trigger same)⟩
  · rintro ⟨described, listed, started⟩
    rw [tidied, Value.orElse_eq_self_iff.mpr described, Step.map_tidied_iff.mpr listed,
      triggers.mpr started]

theorem find?_triggerEntries (key : String) (trigger : Option Trigger) :
    Table.find? (.str key) (triggerEntries trigger) =
      if "trigger" = key then trigger.map Trigger.document else none := by
  cases trigger <;> simp [triggerEntries, Table.find?]

/-- What the document of a workflow has under a key. -/
theorem find?_entries (workflow : Workflow) (key : String) :
    Table.find? (.str key) workflow.entries =
      ((if "id" = key then some workflow.id
        else if "name" = key then some workflow.name
        else if "steps" = key then some (.list (workflow.steps.map Step.record))
        else none).or
      (if "description" = key then
        (if workflow.description.truthy then some workflow.description else none) else none)).or
      (if "trigger" = key then workflow.trigger.map Trigger.document else none) := by
  rw [entries, Table.find?_append, Table.find?_append, find?_entryIf, find?_triggerEntries]
  simp only [Table.find?, Value.same_str, decide_eq_true_eq]

/-- A workflow with a name is read back from its document in its tidy form. -/
theorem ofDocument_entries (data : ∀ step ∈ workflow.steps, step.input.isData = true)
    (decided : ∀ step ∈ workflow.steps, step.continueOnError.isBool = true)
    (named : workflow.name.truthy = true) :
    ofDocument (.map workflow.entries) = .ok workflow.tidied := by
  have unwrapped : unwrap (.map workflow.entries) = .ok (.map workflow.entries) := by
    have absent : (Value.map workflow.entries).includes "workflow" = .ok false := by
      simp [Value.includes, Value.opened, Table.contains, find?_entries]
    rw [unwrap, absent]
    rfl
  have documents : ((Value.list (workflow.steps.map Step.record)).orElse (.list [])).opened =
      .list (workflow.steps.map Step.record) := by
    cases workflow.steps <;> rfl
  have steps := Step.stepsOfDocuments_record workflow.id data decided
  have kept : workflow.name.orElse workflow.id = workflow.name := if_pos named
  rw [ofDocument, unwrapped]
  simp only [Value.getOr_map, find?_entries, bind, Except.bind,
    String.reduceEq, reduceIte, Option.none_or, Option.or_none, Option.getD_some, documents, steps,
    kept, Value.getD_of_truthy, tidied]
  cases workflow.trigger with
  | none => rfl
  | some trigger =>
    have present : trigger.document.truthy = true := by simp [Trigger.document, Value.truthy]
    simp only [Option.map_some, Option.getD_some, if_pos present, trigger.ofDocument_document]
    rfl

/-- Equality of optional triggers. -/
def sameTriggers : Option Trigger → Option Trigger → Bool
  | none, none => true
  | some trigger, some trigger' => trigger.sameAs trigger'
  | _, _ => false

theorem sameTriggers_tidied (trigger : Option Trigger) :
    sameTriggers (trigger.map Trigger.tidied) trigger = true ↔ ∀ t ∈ trigger, t.IsTidy := by
  cases trigger with
  | none => simp [sameTriggers]
  | some t => simp [sameTriggers, Trigger.sameAs_tidied]

theorem sameAs_tidied (finite : ∀ step ∈ workflow.steps, step.input.isEndless = false) :
    ∃ same, workflow.tidied.sameAs workflow = .ok same ∧ (same = true ↔ workflow.IsTidy) := by
  obtain ⟨listed, compared, tidySteps⟩ := Step.allSame_tidied finite
  have described := Value.same_orElse_iff (v := workflow.description)
    (Value.eq_str_of_same_left "")
  have started := sameTriggers_tidied workflow.trigger
  refine ⟨listed && ((workflow.description.orElse (.str "")).same workflow.description &&
    sameTriggers (workflow.trigger.map Trigger.tidied) workflow.trigger), ?_, ?_⟩
  · simp only [sameAs, tidied, Value.same_self, compared, bind, Except.bind]
    cases listed with
    | false => rfl
    | true => cases workflow.trigger <;> rfl
  · rw [Bool.and_eq_true, Bool.and_eq_true, tidySteps, described, started]
    exact ⟨fun ⟨steps, description, trigger⟩ => ⟨description, steps, trigger⟩,
      fun tidy => ⟨tidy.steps, tidy.description, tidy.trigger⟩⟩

/-- Reading makes the id the name where there is no other. -/
theorem name_of_ofDocument {document : Value} (read : ofDocument document = .ok workflow) :
    ∃ given, workflow.name = Value.orElse given workflow.id := by
  unfold ofDocument at read
  obtain ⟨inner, -, read⟩ := Result.bind_ok read
  obtain ⟨listed, -, read⟩ := Result.bind_ok read
  obtain ⟨given, -, read⟩ := Result.bind_ok read
  split at read
  · obtain ⟨steps, -, read⟩ := Result.bind_ok read
    obtain ⟨started, -, read⟩ := Result.bind_ok read
    obtain ⟨id, -, read⟩ := Result.bind_ok read
    obtain ⟨name, -, read⟩ := Result.bind_ok read
    obtain ⟨description, -, read⟩ := Result.bind_ok read
    split at read
    · obtain ⟨stated, -, read⟩ := Result.bind_ok read
      obtain ⟨trigger, -, read⟩ := Result.bind_ok read
      cases read
      exact ⟨name, rfl⟩
    · obtain ⟨trigger, -, read⟩ := Result.bind_ok read
      cases read
      exact ⟨name, rfl⟩
  · obtain ⟨steps, refused, -⟩ := Result.bind_ok read
    cases refused

/-- A definition without problems that was read has a name, and its steps say yes or no to going on
after an error. -/
theorem named_of_ofDocument {document : Value} (read : ofDocument document = .ok workflow)
    (sound : workflow.validate = .ok []) : workflow.name.truthy = true ∧
      ∀ step ∈ workflow.steps, step.continueOnError.isBool = true := by
  obtain ⟨identified, steps, -, -⟩ := validate_eq_nil_iff.mp sound
  refine ⟨?_, fun step member => (steps step member).decided⟩
  obtain ⟨given, named⟩ := name_of_ofDocument read
  rw [named, Value.orElse]
  split
  · assumption
  · exact identified

/-- A definition without problems that was read from some document comes back from its own document
in its tidy form, whose document is the same one. It comes back as it was, and as an equal one, just
when it is tidy. -/
theorem comes_back_tidied {document : Value} (read : ofDocument document = .ok workflow)
    (sound : workflow.validate = .ok [])
    (data : ∀ step ∈ workflow.steps, step.input.isData = true) :
    ∃ written, workflow.document = .ok written ∧ ofDocument written = .ok workflow.tidied ∧
      workflow.tidied.document = .ok written ∧
      (ofDocument written = .ok workflow ↔ workflow.IsTidy) ∧
      ((∀ step ∈ workflow.steps, step.input.isEndless = false) →
        ∃ same, workflow.survivesDocument = .ok same ∧ (same = true ↔ workflow.IsTidy)) := by
  obtain ⟨named, decided⟩ := named_of_ofDocument read sound
  have written := document_of_isData data
  have back := ofDocument_entries data decided named
  refine ⟨.map workflow.entries, written, back, ?_, ?_, fun finite => ?_⟩
  · rw [← entries_tidied]
    refine document_of_isData fun step member => ?_
    obtain ⟨given, known, rfl⟩ := List.mem_map.mp member
    exact data given known
  · rw [back, Except.ok.injEq]
    exact tidied_eq_self_iff
  · obtain ⟨same, compared, tidy⟩ := sameAs_tidied finite
    refine ⟨same, ?_, tidy⟩
    rw [survivesDocument, written]
    change (do
      let readBack ← ofDocument (.map workflow.entries)
      readBack.sameAs workflow) = _
    rw [back]
    exact compared

namespace Sample

/-- A wrapped definition in the other spelling, with an output and an event that say nothing. -/
def scribbled : Value :=
  .map [(.str "workflow", .map [(.str "id", .int 7), (.str "description", .list [.null]),
    (.str "trigger", .map [(.str "type", .str "event"), (.str "event", .str "")]),
    (.str "steps", .list [.map [(.str "id", .str "post"), (.str "agent_type", .str "mail"),
      (.str "action", .str "send"), (.str "output_variable", .bool false),
      (.str "continue_on_error", .bool true), (.str "timeout", .int 5)]])])]

/-- What it is read as. -/
def scribble : Workflow where
  id := .int 7
  name := .int 7
  steps := [⟨.str "post", .str "mail", .str "send", .map [], .bool false, .null, .bool true, .int 5⟩]
  description := .list [.null]
  trigger := some ⟨.str "event", .str "", .null⟩

/-- Its tidy form. -/
def fair : Workflow where
  id := .int 7
  name := .int 7
  steps := [⟨.str "post", .str "mail", .str "send", .map [], .null, .null, .bool true, .int 5⟩]
  description := .list [.null]
  trigger := some ⟨.str "event", .null, .null⟩

end Sample

theorem scribble_comes_back_fair :
    ofDocument Sample.scribbled = .ok Sample.scribble ∧ Sample.scribble.validate = .ok [] ∧
      ∃ written, Sample.scribble.document = .ok written ∧
        ofDocument written = .ok Sample.fair ∧ Sample.fair.document = .ok written ∧
        Sample.scribble.survivesDocument = .ok false := by
  have read : ofDocument Sample.scribbled = .ok Sample.scribble := by
    simp [Sample.scribbled, Sample.scribble, ofDocument, unwrap, stepsOfDocuments, Step.ofDocument,
      Trigger.ofDocument, Value.includes, Value.subscript, Value.hashable, Value.unhashable?,
      Value.isMap, Value.getOr, Value.get?, Value.opened, Table.contains, Table.find?,
      Value.orElse, Value.truthy, bind, Except.bind, pure, Except.pure]
    rfl
  have sound : Sample.scribble.validate = .ok [] := rfl
  obtain ⟨written, told, back, again, -, survives⟩ := comes_back_tidied read sound (by
    simp [Sample.scribble, Value.isData, Value.allEntriesData])
  obtain ⟨same, compared, tidy⟩ := survives (by
    simp [Sample.scribble, Value.isEndless, Value.anyEntryEndless])
  have untidy : same = false := by
    rw [← Bool.not_eq_true, tidy]
    rintro ⟨-, -, triggered⟩
    obtain stated | null := (triggered _ rfl).1
    · cases stated
    · cases null
  exact ⟨read, sound, written, told, back, again, untidy ▸ compared⟩

end Workflow

end Stepwise
