import Stepwise.Proofs.Definition.Accepted
import Stepwise.Proofs.Definition.Numbering
import Stepwise.Proofs.Fault.Text
import Stepwise.Registry.Loading

/-!
# What a directory of definitions comes to

A file holds something on its own: a definition that a registry without workflows takes in, or a
fault. What a registry that has workflows already makes of the file follows from that, for neither
what it holds nor how many texts came before decides whether a definition is taken in. A loading
therefore registers the definitions that the files hold on their own, one after the other, until
it comes to a file whose fault is not one to be passed over.
-/

namespace Stepwise

/-- What can be met in forming the text of a value is not passed over. -/
theorem Fault.IsUntold.not_passedOver {f : Fault} (untold : f.IsUntold) :
    Workflows.isPassedOver f = false := by
  obtain ⟨message, rfl | rfl⟩ := untold <;> rfl

/-- A definition in a later text is admitted as it is in the first one, or it is refused in both
for its problems. -/
theorem Workflow.admitted_later (definition : Workflow) (count : Nat) :
    (definition.later count).admitted = definition.admitted ∨
      ∃ f g, definition.admitted = .error f ∧ (definition.later count).admitted = .error g ∧
        Workflows.isPassedOver f = true ∧ Workflows.isPassedOver g = true := by
  have valid := validate_later count definition
  cases said : definition.validate with
  | error f =>
    rw [said] at valid
    exact .inl ((admitted_of_fault valid).trans (admitted_of_fault said).symm)
  | ok messages =>
    rw [said] at valid
    have own : (definition.later count).id.text = definition.id.text :=
      Value.text_later count definition.id
    rw [admitted_of_validated valid, admitted_of_validated said, obstacle?_later]
    by_cases silent : messages = []
    · rw [if_neg (not_not_intro silent), if_neg (not_not_intro silent)]
      have hashed : (definition.later count).id.hashable = definition.id.hashable :=
        Value.hashable_later count definition.id
      exact .inl (by rw [hashed])
    · rw [if_pos silent, if_pos silent]
      cases told : definition.id.text with
      | error met =>
        left
        rw [told] at own
        simp only [refuse, Fault.raised, Fault.text, own, told, bind, Except.bind]
      | ok text =>
        right
        rw [told] at own
        refine ⟨.invalidDefinition definition.id messages,
          .invalidDefinition (definition.later count).id messages, ?_, ?_, rfl, rfl⟩
        · simp only [refuse, Fault.raised, Fault.text, told, bind, Except.bind, pure, Except.pure]
        · simp only [refuse, Fault.raised, Fault.text, own, bind, Except.bind, pure, Except.pure]

namespace Workflows

variable {files : Files} {path : Path} {workflows final : Workflows}

/-! ## One file -/

/-- The characters of the definition file of a name. -/
def sourceOf (files : Files) (name : String) : Except Fault (List Char) := do
  if ← files.present (Path.ofText name) then files.readText (Path.ofText name)
  else throw (.machinery "FileNotFoundError" s!"Workflow file not found: {name}")

/-- A file can be there and have no characters. -/
theorem sourceOf_of_malformed {name : String} {content : List UInt8} {malformed : Utf8.Malformed}
    (read : files.read (.ofText name) = .ok content)
    (undecodable : Utf8.decode content = .error malformed) :
    sourceOf files name = .error (.machinery "UnicodeDecodeError" malformed.text) := by
  have there : files.present (.ofText name) = .ok true := by
    unfold Files.read at read
    unfold Files.present Files.status
    split at read
    · rename_i found
      rw [found]
      rfl
    · cases read
    · cases read
  rw [sourceOf, there]
  change files.readText (.ofText name) = _
  rw [Files.readText, read]
  simp only [bind, Except.bind, undecodable]
  rfl

/-- The registry when so many more texts were read for what it holds. -/
def advanced (workflows : Workflows) (count : Nat) : Workflows :=
  { workflows with texts := workflows.texts + count }

/-- Only a file whose characters can be had makes a text more. -/
theorem runOn_readDefinition (files : Files) (name : String) (workflows : Workflows) :
    (readDefinition files name).runOn workflows =
      match sourceOf files name with
      | .error f => (.error f, workflows)
      | .ok source => (Workflow.ofYaml workflows.texts source, workflows.advanced 1) := by
  rw [readDefinition, Effect.runOn_lift_bind]
  cases there : files.present (Path.ofText name) with
  | error f =>
    rw [sourceOf, there]
    rfl
  | ok found =>
    cases found with
    | false =>
      rw [sourceOf, there]
      rfl
    | true =>
      have opened : sourceOf files name = files.readText (Path.ofText name) := by
        rw [sourceOf, there]
        rfl
      rw [opened]
      dsimp only
      rw [if_pos rfl, Effect.runOn_lift_bind]
      cases files.readText (Path.ofText name) with
      | error f => rfl
      | ok source =>
        dsimp only
        rw [readYaml, Effect.runOn_get_bind, Effect.runOn_set_bind, Effect.runOn_lift]
        rfl

theorem runOn_takeFile (files : Files) (path : Path) (workflows : Workflows) :
    (takeFile files path).runOn workflows =
      match sourceOf files path.text with
      | .error f => (.error f, workflows)
      | .ok source =>
        match Workflow.ofYaml workflows.texts source with
        | .error f => (.error f, workflows.advanced 1)
        | .ok definition =>
          match definition.admitted with
          | .error f => (.error f, workflows.advanced 1)
          | .ok () =>
            (definition.id.text.map fun _ => definition,
              (workflows.advanced 1).keep definition) := by
  rw [takeFile, Effect.runOn_bind, runOn_readDefinition]
  cases sourceOf files path.text with
  | error f => rfl
  | ok source =>
    dsimp only
    cases Workflow.ofYaml workflows.texts source with
    | error f => rfl
    | ok definition =>
      dsimp only
      rw [Effect.runOn_bind, runOn_register]
      cases definition.admitted with
      | error f => rfl
      | ok _ =>
        dsimp only
        cases definition.id.text <;> rfl

/-- What a file comes to on its own: the definition that a registry without workflows takes in, or
the fault for which it does not. -/
def alone (files : Files) (path : Path) : Except Fault Workflow :=
  ((takeFile files path).runOn .empty).1

/-- What taking a file in comes to on a registry, given what the file comes to on its own. -/
inductive Taking (workflows : Workflows) :
    Except Fault Workflow → Except Fault Workflow × Workflows → Prop where
  | taken (definition : Workflow)
      (admitted : (definition.later workflows.texts).admitted = .ok ())
      (told : ∃ text, (definition.later workflows.texts).id.text = .ok text) :
      Taking workflows (.ok definition)
        (.ok (definition.later workflows.texts),
          (workflows.advanced 1).keep (definition.later workflows.texts))
  | passedOver (f g : Fault) (changed : Workflows) (own : isPassedOver f = true)
      (met : isPassedOver g = true) (kept : changed.table = workflows.table) :
      Taking workflows (.error f) (.error g, changed)
  | ending (f : Fault) (changed : Workflows) (own : isPassedOver f = false) :
      Taking workflows (.error f) (.error f, changed)

/-- A fault leaves the workflows as they are unless it is met in announcing one. -/
theorem Taking.of_error {f : Fault} {changed : Workflows} (kept : changed.table = workflows.table) :
    Taking workflows (.error f) (.error f, changed) := by
  cases own : isPassedOver f with
  | true => exact .passedOver f f changed own own kept
  | false => exact .ending f changed own

/-- What a registry makes of a file follows from what the file comes to on its own. Only a fault
that is met in announcing a definition leaves something behind, and that is not passed over. -/
theorem taking (files : Files) (path : Path) (workflows : Workflows) :
    Taking workflows (alone files path) ((takeFile files path).runOn workflows) := by
  rw [alone, runOn_takeFile, runOn_takeFile]
  cases sourceOf files path.text with
  | error f => exact .of_error rfl
  | ok source =>
    dsimp only
    rw [Workflow.ofYaml_later workflows.texts, Workflow.ofYaml_later empty.texts]
    cases Workflow.ofYaml 0 source with
    | error f => exact .of_error rfl
    | ok definition =>
      have first : definition.later empty.texts = definition := definition.later_zero
      simp only [Except.map, first]
      have own : (definition.later workflows.texts).id.text = definition.id.text :=
        Value.text_later workflows.texts definition.id
      rcases definition.admitted_later workflows.texts with same | ⟨f, g, alone, here, own, met⟩
      · cases fit : definition.admitted with
        | error f =>
          rw [same, fit]
          exact .of_error rfl
        | ok _ =>
          rw [same, fit, own]
          dsimp only
          cases told : definition.id.text with
          | error f => exact .ending f _ (Value.text_untold told).not_passedOver
          | ok text => exact .taken definition (same.trans fit) ⟨text, own.trans told⟩
      · rw [alone, here]
        exact .passedOver f g _ own met rfl

/-! ## One file after the other -/

/-- The fault that a loading ends with at a file. A definition that is taken in is announced by its
name. -/
def ending? (files : Files) (path : Path) : Option Fault :=
  match alone files path with
  | .ok definition =>
    match definition.name.text with
    | .ok _ => none
    | .error f => some f
  | .error f => if isPassedOver f then none else some f

/-- A file with malformed characters ends a loading: the fault is not one to be passed over. -/
theorem ending?_of_malformed {content : List UInt8} {malformed : Utf8.Malformed}
    (read : files.read (.ofText path.text) = .ok content)
    (undecodable : Utf8.decode content = .error malformed) :
    ending? files path = some (.machinery "UnicodeDecodeError" malformed.text) := by
  have own : alone files path = .error (.machinery "UnicodeDecodeError" malformed.text) := by
    rw [alone, runOn_takeFile, sourceOf_of_malformed read undecodable]
  have fatal : isPassedOver (.machinery "UnicodeDecodeError" malformed.text) = false := rfl
  unfold ending?
  rw [own]
  dsimp only
  rw [fatal, if_neg Bool.false_ne_true]

/-- The definition that a file holds on its own. -/
def held? (files : Files) (path : Path) : Option Workflow := (alone files path).toOption

theorem runOn_loadFile (files : Files) (path : Path) (workflows : Workflows) :
    (loadFile files path).runOn workflows =
      match (takeFile files path).runOn workflows with
      | (.ok workflow, changed) => (workflow.name.text.map fun _ => some workflow.id, changed)
      | (.error f, changed) =>
        if isPassedOver f then (.ok none, { changed with texts := workflows.texts })
        else (.error f, changed) := by
  rw [loadFile, Effect.runOn_get_bind, Effect.runOn_attempt_bind]
  rcases (takeFile files path).runOn workflows with ⟨f | workflow, changed⟩
  · dsimp only
    by_cases passed : isPassedOver f = true
    · rw [if_pos passed, if_pos passed]
      rfl
    · rw [if_neg passed, if_neg passed]
      rfl
  · dsimp only
    cases workflow.name.text <;> rfl

/-- A loading that ends at a file ends with the fault of that file. -/
theorem runOn_loadFile_of_ending {f : Fault} (ends : ending? files path = some f)
    (workflows : Workflows) :
    (loadFile files path).runOn workflows =
      (.error f, ((takeFile files path).runOn workflows).2) := by
  have come := taking files path workflows
  rw [runOn_loadFile]
  unfold ending? at ends
  generalize alone files path = own at come ends
  generalize (takeFile files path).runOn workflows = outcome at come
  cases come with
  | taken definition admitted told =>
    have own : (definition.later workflows.texts).name.text = definition.name.text :=
      Value.text_later workflows.texts definition.name
    dsimp only at ends ⊢
    rw [own]
    cases named : definition.name.text with
    | ok text =>
      rw [named] at ends
      cases ends
    | error g =>
      rw [named] at ends
      cases ends
      rfl
  | passedOver g _ _ own =>
    dsimp only at ends
    rw [if_pos own] at ends
    cases ends
  | ending g _ own =>
    dsimp only at ends ⊢
    rw [if_neg (by simp [own])] at ends ⊢
    cases ends
    rfl

/-- The definition that a file holds is taken in as the one of the next text. -/
theorem runOn_loadFile_of_held {definition : Workflow} (sound : ending? files path = none)
    (held : held? files path = some definition) (workflows : Workflows) :
    (definition.later workflows.texts).admitted = .ok () ∧
      (∃ text, (definition.later workflows.texts).id.text = .ok text) ∧
      (loadFile files path).runOn workflows =
        (.ok (some (definition.later workflows.texts).id),
          (workflows.advanced 1).keep (definition.later workflows.texts)) := by
  have come := taking files path workflows
  rw [runOn_loadFile]
  unfold ending? at sound
  unfold held? at held
  generalize alone files path = own at come sound held
  generalize (takeFile files path).runOn workflows = outcome at come
  cases come with
  | taken _ admitted told =>
    cases held
    refine ⟨admitted, told, ?_⟩
    have own : (definition.later workflows.texts).name.text = definition.name.text :=
      Value.text_later workflows.texts definition.name
    dsimp only at sound ⊢
    rw [own]
    cases named : definition.name.text with
    | ok text => rfl
    | error g =>
      rw [named] at sound
      cases sound
  | passedOver => cases held
  | ending => cases held

/-- A file holds no definition on its own, for a fault that is passed over. -/
def IsRejected (files : Files) (path : Path) : Prop :=
  ∃ f, alone files path = .error f ∧ isPassedOver f = true

/-- Nothing is left of a rejected file. -/
theorem IsRejected.runOn_loadFile (rejected : IsRejected files path) (workflows : Workflows) :
    (loadFile files path).runOn workflows = (.ok none, workflows) := by
  obtain ⟨f, own, passed⟩ := rejected
  have come := taking files path workflows
  rw [Workflows.runOn_loadFile]
  rw [own] at come
  generalize (takeFile files path).runOn workflows = outcome at come
  cases come with
  | passedOver _ g changed _ met kept =>
    dsimp only
    rw [if_pos met, kept]
  | ending _ changed own =>
    rw [own] at passed
    cases passed

theorem isRejected_of_not_held (sound : ending? files path = none)
    (empty : held? files path = none) : IsRejected files path := by
  unfold ending? at sound
  unfold held? at empty
  cases own : alone files path with
  | ok definition =>
    rw [own] at empty
    cases empty
  | error f =>
    refine ⟨f, own, ?_⟩
    rw [own] at sound
    dsimp only at sound
    split at sound
    · assumption
    · cases sound

/-- The definitions that files hold on their own, in the order of the files. -/
def held (files : Files) (paths : List Path) : List Workflow := paths.filterMap (held? files)

/-- Definitions as those of one text after the other, from a number on. -/
def numbered (number : Nat) : List Workflow → List Workflow
  | [] => []
  | definition :: rest => definition.later number :: numbered (number + 1) rest

/-- Files whose faults are passed over are loaded as if only those were there that hold a
definition: these are registered in their order. -/
theorem runOn_loadFiles {paths : List Path} (sound : ∀ path ∈ paths, ending? files path = none)
    (workflows : Workflows) :
    ∃ final, (loadFiles files paths).runOn workflows =
        (.ok ((numbered workflows.texts (held files paths)).map Workflow.id), final) ∧
      ((numbered workflows.texts (held files paths)).forM register).runOn
        (workflows.advanced (held files paths).length) = (.ok (), final) := by
  induction paths generalizing workflows with
  | nil => exact ⟨workflows, rfl, rfl⟩
  | cons path rest inductionHypothesis =>
    obtain ⟨here, later⟩ := List.forall_mem_cons.mp sound
    rw [loadFiles, Effect.runOn_bind]
    cases holds : held? files path with
    | none =>
      have rejected := isRejected_of_not_held here holds
      obtain ⟨final, loaded, registered⟩ := inductionHypothesis later workflows
      have same : held files (path :: rest) = held files rest := by
        rw [held, List.filterMap_cons_none holds, ← held]
      rw [rejected.runOn_loadFile, same]
      dsimp only
      rw [Effect.runOn_bind, loaded]
      exact ⟨final, rfl, registered⟩
    | some definition =>
      obtain ⟨admitted, ⟨text, told⟩, alone⟩ := runOn_loadFile_of_held here holds workflows
      obtain ⟨final, loaded, registered⟩ :=
        inductionHypothesis later ((workflows.advanced 1).keep (definition.later workflows.texts))
      have more : held files (path :: rest) = definition :: held files rest := by
        rw [held, List.filterMap_cons_some holds, ← held]
      have counted : (workflows.advanced (held files rest).length.succ).keep
          (definition.later workflows.texts) =
          ((workflows.advanced 1).keep (definition.later workflows.texts)).advanced
            (held files rest).length := by
        simp only [keep, advanced, Workflows.mk.injEq, true_and]
        omega
      rw [alone, more, numbered]
      dsimp only
      rw [Effect.runOn_bind, loaded]
      refine ⟨final, rfl, ?_⟩
      rw [List.forM, Effect.runOn_bind, runOn_register, admitted]
      dsimp only
      rw [told, List.length_cons, counted]
      exact registered

/-- Rejected files can be left out. -/
theorem runOn_loadFiles_filter {paths : List Path} {kept : Path → Bool}
    (rejected : ∀ path ∈ paths, kept path = false → IsRejected files path)
    (workflows : Workflows) :
    (loadFiles files (paths.filter kept)).runOn workflows =
      (loadFiles files paths).runOn workflows := by
  induction paths generalizing workflows with
  | nil => rfl
  | cons path rest inductionHypothesis =>
    obtain ⟨here, later⟩ := List.forall_mem_cons.mp rejected
    cases keeps : kept path with
    | true =>
      rw [List.filter_cons_of_pos keeps, loadFiles, loadFiles, Effect.runOn_bind,
        Effect.runOn_bind]
      rcases (loadFile files path).runOn workflows with ⟨f | found, changed⟩
      · rfl
      · dsimp only
        rw [Effect.runOn_bind, Effect.runOn_bind, inductionHypothesis later]
    | false =>
      rw [List.filter_cons_of_neg (by simp [keeps]), inductionHypothesis later, loadFiles,
        Effect.runOn_bind, (here keeps).runOn_loadFile]
      dsimp only
      rw [Effect.runOn_bind]
      rcases (loadFiles files rest).runOn workflows with ⟨f | found, changed⟩ <;> rfl

/-- Files with the same characters load in the same way, wherever they are. -/
theorem runOn_loadFiles_of_source {others : Files} {paths : List Path}
    (same : ∀ path ∈ paths, sourceOf others path.text = sourceOf files path.text)
    (workflows : Workflows) :
    (loadFiles others paths).runOn workflows = (loadFiles files paths).runOn workflows := by
  induction paths generalizing workflows with
  | nil => rfl
  | cons path rest inductionHypothesis =>
    obtain ⟨here, later⟩ := List.forall_mem_cons.mp same
    have alike : (loadFile others path).runOn workflows =
        (loadFile files path).runOn workflows := by
      rw [runOn_loadFile, runOn_loadFile, runOn_takeFile, runOn_takeFile, here]
    rw [loadFiles, loadFiles, Effect.runOn_bind, Effect.runOn_bind, alike]
    rcases (loadFile files path).runOn workflows with ⟨f | found, changed⟩
    · rfl
    · dsimp only
      rw [Effect.runOn_bind, Effect.runOn_bind, inductionHypothesis later]

theorem runOn_loadFiles_append (files : Files) (paths others : List Path)
    (workflows : Workflows) {ids : List Value}
    (loaded : (loadFiles files paths).runOn workflows = (.ok ids, final)) :
    (loadFiles files (paths ++ others)).runOn workflows =
      (((loadFiles files others).runOn final).1.map (ids ++ ·),
        ((loadFiles files others).runOn final).2) := by
  induction paths generalizing workflows ids with
  | nil =>
    cases loaded
    rw [List.nil_append]
    rcases (loadFiles files others).runOn final with ⟨f | more, changed⟩ <;> rfl
  | cons path rest inductionHypothesis =>
    obtain ⟨here, changed, first, loaded⟩ := Effect.bind_ok loaded
    obtain ⟨more, last, later, done⟩ := Effect.bind_ok loaded
    obtain ⟨same, rfl⟩ := Prod.mk.inj done
    rw [List.cons_append, loadFiles, Effect.runOn_bind, first]
    dsimp only
    rw [Effect.runOn_bind, inductionHypothesis changed later, ← Except.ok.inj same]
    rcases (loadFiles files others).runOn last with ⟨f | found, changed'⟩
    · rfl
    · simp [Except.map]

/-- A loading ends at the first file whose fault is not passed over. What the files before it hold
stays registered. -/
theorem runOn_loadFiles_of_ending {before after : List Path} {f : Fault}
    (sound : ∀ path ∈ before, ending? files path = none) (ends : ending? files path = some f)
    (workflows : Workflows) :
    ∃ middle, ((numbered workflows.texts (held files before)).forM register).runOn
        (workflows.advanced (held files before).length) = (.ok (), middle) ∧
      (loadFiles files (before ++ path :: after)).runOn workflows =
        (.error f, ((takeFile files path).runOn middle).2) := by
  obtain ⟨middle, loaded, registered⟩ := runOn_loadFiles sound workflows
  refine ⟨middle, registered, ?_⟩
  rw [runOn_loadFiles_append files before (path :: after) workflows loaded, loadFiles,
    Effect.runOn_bind, runOn_loadFile_of_ending ends]
  rfl

end Workflows

end Stepwise
