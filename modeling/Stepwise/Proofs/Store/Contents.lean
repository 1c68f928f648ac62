import Stepwise.Proofs.Json.Bare
import Stepwise.Store.Folder

/-!
# What a file gives

A file in a folder can have any content. What is read from it is an execution, or a refusal that
a store translates: the bytes are no text, the text is no JSON, a key is missing, or a value is none
of those that it can be. But a document that is JSON of another shape, or nested too deep, goes
astray: the fault is one of kinds that are not translated. What shape a document has is told by its
parts.
-/

namespace Stepwise

namespace Value

/-- What a document has under a key, or what stands for it. -/
def part (document : Value) (key : String) (fallback : Value) : Value :=
  match document.opened with
  | map entries => (get? key entries).getD fallback
  | _ => fallback

/-- Whether a value can stand for a time, if not for a right one. -/
def isTimeShaped (v : Value) : Bool := !v.truthy || v.isText

end Value

/-- Whether all that is asked of the document of a result can be asked. -/
def StepResult.isShaped (v : Value) : Bool :=
  v.isMap && (!(v.part "error" .null).truthy || (v.part "error" .null).isMap) &&
    (v.part "started_at" .null).isTimeShaped && (v.part "finished_at" .null).isTimeShaped

/-- Whether all that is asked of the document of an execution can be asked. -/
def Execution.isShaped (v : Value) : Bool :=
  v.isMap && (v.part "step_results" (.list [])).items.toOption.any (·.all StepResult.isShaped) &&
    (v.part "started_at" .null).isTimeShaped && (v.part "finished_at" .null).isTimeShaped

namespace Folder

/-- A fault that is translated, and can be told. -/
def IsRefusal (f : Fault) : Prop := isDocumentFault f = true ∧ f.HasText

/-- A fault of those that are not translated, and that a document may lead to. -/
def IsStray (f : Fault) : Prop :=
  (∃ message, f = .typeError message) ∨ ∃ message, f = .machinery "RecursionError" message

theorem isRefusal_valueError (message : String) : IsRefusal (.valueError message) :=
  ⟨rfl, (Fault.machinery_isMachinery _ _).hasText⟩

theorem isRefusal_keyError (key : String) : IsRefusal (.keyError (.str key)) :=
  ⟨rfl, quoted key, rfl⟩

theorem not_isDocumentFault {f : Fault} (stray : IsStray f) : isDocumentFault f = false := by
  obtain ⟨message, rfl⟩ | ⟨message, rfl⟩ := stray
  · rfl
  · rfl

/-- What comes of reading something: a value, if it is fit for it, a refusal, or a stray fault, if
it is not. -/
inductive Reading {α : Type} (fit : Bool) : Except Fault α → Prop
  | made (a : α) (fits : fit = true) : Reading fit (.ok a)
  | refused (f : Fault) (refusal : IsRefusal f) : Reading fit (.error f)
  | astray (f : Fault) (stray : IsStray f) (misfits : fit = false) : Reading fit (.error f)

namespace Reading

variable {α β : Type} {fit fit' : Bool}

/-- One reading after the other is fit when both are. -/
theorem bind {first : Except Fault α} {next : α → Except Fault β} (reading : Reading fit first)
    (later : ∀ a, first = .ok a → Reading fit' (next a)) :
    Reading (fit && fit') (first >>= next) := by
  cases reading with
  | made a fits =>
    rw [fits, Bool.true_and]
    exact later a rfl
  | refused f refusal => exact .refused f refusal
  | astray f stray misfits =>
    refine .astray f stray ?_
    rw [misfits, Bool.false_and]

/-- What comes after a reading that is always fit decides. -/
theorem after {first : Except Fault α} {next : α → Except Fault β} (reading : Reading true first)
    (later : ∀ a, first = .ok a → Reading fit (next a)) : Reading fit (first >>= next) :=
  reading.bind later

theorem mapM {items : List α} {read : α → Except Fault β} {fits : α → Bool}
    (each : ∀ item ∈ items, Reading (fits item) (read item)) :
    Reading (items.all fits) (items.mapM read) := by
  induction items with
  | nil => exact .made [] rfl
  | cons item rest inductionHypothesis =>
    obtain ⟨first, others⟩ := List.forall_mem_cons.mp each
    rw [List.mapM_cons, List.all_cons]
    refine first.bind fun made _ => ?_
    rw [← Bool.and_true (rest.all fits)]
    exact (inductionHypothesis others).bind fun made' _ => .made _ rfl

end Reading

/-! ## Parts of documents -/

variable {v content : Value} {entries : List (Value × Value)} {key : String}

theorem subscript_map (entries : List (Value × Value)) (key : String) :
    (Value.map entries).subscript (.str key) =
      ((Value.get? key entries).map Except.ok).getD (.error (.keyError (.str key))) := by
  unfold Value.get?
  cases found : Table.find? (.str key) entries with
  | none =>
    simp only [Value.subscript, Value.opened, Value.hashable, Value.unhashable?, bind, Except.bind,
      found]
    rfl
  | some content =>
    simp only [Value.subscript, Value.opened, Value.hashable, Value.unhashable?, bind, Except.bind,
      found]
    rfl

/-- A map may miss a key. -/
theorem reading_subscript (entries : List (Value × Value)) (key : String) :
    Reading true ((Value.map entries).subscript (.str key)) := by
  rw [subscript_map]
  cases Value.get? key entries with
  | none => exact .refused _ (isRefusal_keyError key)
  | some content => exact .made content rfl

/-- What is not a map cannot be asked for a key. -/
theorem subscript_of_not_map (bare : v.isBare = true) (other : v.isMap = false) (key : String) :
    ∃ message, v.subscript (.str key) = .error (.typeError message) := by
  cases v with
  | map entries => cases other
  | null | bool b | int n | float x | str text | list items => exact ⟨_, rfl⟩
  | _ => cases bare

/-- What is asked first of a document that is not a map leads astray. -/
theorem reading_of_not_map {α : Type} (bare : v.isBare = true) (other : v.isMap = false)
    (key : String) (next : Value → Except Fault α) (fit : Bool) :
    Reading (v.isMap && fit) (v.subscript (.str key) >>= next) := by
  obtain ⟨message, asked⟩ := subscript_of_not_map bare other key
  rw [asked, other]
  exact .astray _ (.inl ⟨message, rfl⟩) rfl

theorem isBare_of_subscript (bare : Value.allEntriesBare entries = true)
    (found : (Value.map entries).subscript (.str key) = .ok content) : content.isBare = true := by
  rw [subscript_map] at found
  cases held : Value.get? key entries with
  | none =>
    rw [held] at found
    cases found
  | some content =>
    rw [held] at found
    cases found
    exact Value.isBare_of_find? bare held

/-- A map has a part under every key, if only what stands for it. -/
theorem reading_getOr (entries : List (Value × Value)) (key : String) (fallback : Value) :
    Reading true ((Value.map entries).getOr key fallback) := .made _ rfl

theorem part_of_getOr {fallback : Value}
    (found : (Value.map entries).getOr key fallback = .ok content) :
    (Value.map entries).part key fallback = content := Except.ok.inj found

theorem isBare_part (bare : Value.allEntriesBare entries = true) {fallback : Value}
    (bare' : fallback.isBare = true) :
    ((Value.map entries).part key fallback).isBare = true := by
  change ((Value.get? key entries).getD fallback).isBare = true
  cases held : Value.get? key entries with
  | none => exact bare'
  | some content => exact Value.isBare_of_find? bare held

/-- A bare value that is none of a closed list of names can be shown in the refusal, or is refused
for not having a text. -/
theorem reading_namedMember {α : Type} (members : List α) (name : α → String) (family : String)
    (bare : v.isBare = true) : Reading true (namedMember members name family v) := by
  unfold namedMember
  split
  · exact .made _ rfl
  · cases shown : v.shown with
    | ok text => exact .refused _ (isRefusal_valueError _)
    | error f =>
      obtain ⟨message, rfl⟩ := Value.shown_of_isBare v f bare shown
      exact .refused _ (isRefusal_valueError message)

/-- A time is a text or is not given. -/
theorem reading_time (v : Value) : Reading v.isTimeShaped (Moment.ofDocument? v) := by
  unfold Moment.ofDocument? Value.isTimeShaped
  cases v.truthy with
  | false => exact .made none rfl
  | true =>
    cases v with
    | str source =>
      dsimp only
      cases Iso.read source with
      | ok m => exact .made (some m) rfl
      | error problem => exact .refused _ (isRefusal_valueError _)
    | _ => exact .astray _ (.inl ⟨_, rfl⟩) rfl

theorem exists_map (bare : v.isBare = true) (mapped : v.isMap = true) :
    ∃ entries, v = .map entries := by
  cases v with
  | map entries => exact ⟨entries, rfl⟩
  | endless text once => cases bare
  | _ => cases mapped

theorem reading_stepError (bare : v.isBare = true) : Reading v.isMap (StepError.ofDocument v) := by
  cases mapped : v.isMap with
  | false =>
    have astray := reading_of_not_map bare mapped "type" (fun kind => do
      let message ← v.getOr "message" (.str "")
      return { kind, message : StepError }) true
    rw [mapped] at astray
    exact astray
  | true =>
    obtain ⟨entries, rfl⟩ := exists_map bare mapped
    exact (reading_subscript entries "type").after fun kind _ => .made _ rfl

/-- An error is a map or is not given. -/
theorem reading_error {α : Type} {fit : Bool} (bare : v.isBare = true)
    {next : Option StepError → Except Fault α} (later : ∀ error, Reading fit (next error)) :
    Reading ((!v.truthy || v.isMap) && fit) (if v.truthy then do
      let error ← StepError.ofDocument v
      let error ← pure (some error)
      next error
    else do
      let error ← pure none
      next error) := by
  cases v.truthy with
  | false => exact later none
  | true => exact (reading_stepError bare).bind fun error _ => later (some error)

/-! ## Documents -/

/-- Reading the document of a result goes astray only when that has another shape. -/
theorem reading_result (bare : v.isBare = true) :
    Reading (StepResult.isShaped v) (StepResult.ofDocument v) := by
  cases mapped : v.isMap with
  | false =>
    rw [StepResult.isShaped, Bool.and_assoc, Bool.and_assoc]
    exact reading_of_not_map bare mapped _ _ _
  | true =>
    obtain ⟨entries, rfl⟩ := exists_map bare mapped
    rw [StepResult.isShaped, mapped, Bool.true_and, Bool.and_assoc]
    refine (reading_subscript entries _).after fun stepId _ => ?_
    refine (reading_subscript entries _).after fun named found => ?_
    refine (reading_namedMember _ _ _ (isBare_of_subscript bare found)).after fun status _ => ?_
    refine (reading_getOr entries _ _).after fun output _ => ?_
    refine (reading_getOr entries _ _).after fun recorded held => ?_
    obtain rfl := part_of_getOr held
    refine reading_error (isBare_part bare rfl) fun error => ?_
    refine (reading_getOr entries _ _).after fun started held => ?_
    obtain rfl := part_of_getOr held
    refine (reading_time _).bind fun startedAt _ => ?_
    refine (reading_getOr entries _ _).after fun finished held => ?_
    obtain rfl := part_of_getOr held
    rw [← Bool.and_true (Value.isTimeShaped _)]
    exact (reading_time _).bind fun finishedAt _ => .made _ rfl

theorem items_error (bare : v.isBare = true) {f : Fault} (failed : v.items = .error f) :
    ∃ message, f = .typeError message := by
  cases v with
  | null | bool b | int n | float x => exact ⟨_, (Except.error.inj failed).symm⟩
  | str text | list items | map entries => cases failed
  | _ => cases bare

/-- The items of a bare value are bare, as keys of maps and characters of texts are texts. -/
theorem isBare_of_items (bare : v.isBare = true) {items : List Value}
    (given : v.items = .ok items) : ∀ item ∈ items, item.isBare = true := by
  cases v with
  | null | bool b | int n | float x => cases given
  | list held =>
    obtain rfl := Except.ok.inj given
    exact Value.isBare_of_mem bare
  | str text =>
    obtain rfl := Except.ok.inj given
    intro item member
    obtain ⟨c, -, rfl⟩ := List.mem_map.mp member
    rfl
  | map entries =>
    obtain rfl := Except.ok.inj given
    exact Value.isBare_of_mem_keys bare
  | _ => cases bare

/-- The results of a document are read one by one, whatever it is that they come in. -/
theorem reading_results {α : Type} {fit : Bool} (bare : v.isBare = true)
    {next : List StepResult → Except Fault α} (later : ∀ results, Reading fit (next results)) :
    Reading (v.items.toOption.any (·.all StepResult.isShaped) && fit) (do
      let documents ← v.items
      let results ← documents.mapM StepResult.ofDocument
      next results) := by
  cases given : v.items with
  | error f =>
    obtain ⟨message, rfl⟩ := items_error bare given
    exact .astray _ (.inl ⟨message, rfl⟩) rfl
  | ok documents =>
    have each := isBare_of_items bare given
    exact (Reading.mapM fun item member => reading_result (each item member)).bind
      fun results _ => later results

/-- Reading the document of an execution goes astray only when that has another shape. -/
theorem reading_document (bare : v.isBare = true) :
    Reading (Execution.isShaped v) (Execution.ofDocument v) := by
  cases mapped : v.isMap with
  | false =>
    rw [Execution.isShaped, Bool.and_assoc, Bool.and_assoc]
    exact reading_of_not_map bare mapped _ _ _
  | true =>
    obtain ⟨entries, rfl⟩ := exists_map bare mapped
    rw [Execution.isShaped, mapped, Bool.true_and, Bool.and_assoc]
    refine (reading_subscript entries _).after fun id _ => ?_
    refine (reading_subscript entries _).after fun workflow _ => ?_
    refine (reading_subscript entries _).after fun named found => ?_
    refine (reading_namedMember _ _ _ (isBare_of_subscript bare found)).after fun status _ => ?_
    refine (reading_getOr entries _ _).after fun input _ => ?_
    refine (reading_getOr entries _ _).after fun outputs _ => ?_
    refine (reading_getOr entries _ _).after fun listed held => ?_
    obtain rfl := part_of_getOr held
    refine reading_results (isBare_part bare rfl) fun results => ?_
    refine (reading_getOr entries _ _).after fun started held => ?_
    obtain rfl := part_of_getOr held
    refine (reading_time _).bind fun startedAt _ => ?_
    refine (reading_getOr entries _ _).after fun finished held => ?_
    obtain rfl := part_of_getOr held
    rw [← Bool.and_true (Value.isTimeShaped _)]
    exact (reading_time _).bind fun finishedAt _ => (reading_getOr entries _ _).after
      fun error _ => .made _ rfl

/-! ## Contents -/

/-- What the content of a file is read as. -/
def executionOf (content : List UInt8) : Except Fault Execution :=
  match Utf8.decode content with
  | .error malformed => .error (.machinery "UnicodeDecodeError" malformed.text)
  | .ok chars =>
    match Json.read (Text.uniformLines chars) with
    | .error refusal => .error (refusal.fault (Text.uniformLines chars))
    | .ok v => Execution.ofDocument v

/-- Whether a refusal is for the depth. -/
def isDeep (refusal : Json.Refusal) : Bool :=
  match refusal.reason with
  | .tooDeep _ => true
  | _ => false

/-- Whether a content is the text of no JSON at all, or of JSON in the shape of an execution. -/
def isFit (content : List UInt8) : Bool :=
  match Utf8.decode content with
  | .error _ => true
  | .ok chars =>
    match Json.read (Text.uniformLines chars) with
    | .error refusal => !isDeep refusal
    | .ok v => Execution.isShaped v

theorem reading_refusal {α : Type} (refusal : Json.Refusal) (source : List Char) :
    Reading (!isDeep refusal) (.error (refusal.fault source) : Except Fault α) := by
  obtain ⟨reason, left⟩ := refusal
  cases reason with
  | tooDeep container => exact .astray _ (.inr ⟨_, rfl⟩) rfl
  | _ => exact .refused _ (isRefusal_valueError _)

/-- Any content is read as an execution or is refused, or it goes astray for being JSON of another
shape or depth. -/
theorem reading_executionOf (content : List UInt8) :
    Reading (isFit content) (executionOf content) := by
  unfold isFit executionOf
  cases Utf8.decode content with
  | error malformed =>
    exact .refused _ ⟨rfl, (Fault.machinery_isMachinery _ _).hasText⟩
  | ok chars =>
    dsimp only
    cases read : Json.read (Text.uniformLines chars) with
    | error refusal => exact reading_refusal refusal _
    | ok v => exact reading_document (Json.isBare_of_read read)

/-- What is read of a file is told by its content. -/
theorem readDocument_eq {files : Files} {document : Path} {content : List UInt8}
    (held : files.read document = .ok content) :
    readDocument files document = executionOf content := by
  rw [readDocument, Files.readText, held, executionOf]
  simp only [bind, Except.bind]
  cases Utf8.decode content with
  | error malformed => rfl
  | ok chars =>
    dsimp only [pure, Except.pure]
    cases Json.read (Text.uniformLines chars) <;> rfl

end Folder

end Stepwise
