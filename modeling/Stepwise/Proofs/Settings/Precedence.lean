import Stepwise.Proofs.Effect
import Stepwise.Settings.Environment

/-!
# Where a setting comes from

A setting is given by a file of variables, by the variables of the process and by providers, and by
each of these perhaps several times. Collecting goes through all that is given in order, so what
counts is what was given last: the last provider that names the setting, else the last variable of
the process whose text can be read, else the last such line of the file, else what was there before.
What cannot be read, what nobody knows and providers that fail give nothing. No setting comes or
goes.
-/

namespace Stepwise

/-! ## What is given last -/

/-- The last of what some deeds give. -/
def lastGiven {δ τ : Type} (given : δ → Option τ) (deeds : List δ) : Option τ :=
  deeds.reverse.findSome? given

section Last

variable {σ δ τ : Type} {given : δ → Option τ}

theorem lastGiven_cons (deed : δ) (deeds : List δ) :
    lastGiven given (deed :: deeds) = (lastGiven given deeds).or (given deed) := by
  rw [lastGiven, List.reverse_cons, List.findSome?_append, List.findSome?_singleton, lastGiven]

theorem lastGiven_none (deeds : List δ) : lastGiven (fun _ => (none : Option τ)) deeds = none :=
  List.findSome?_eq_none_iff.mpr fun _ _ => rfl

/-- What holds after some deeds when each sets it to what it gives, if it gives anything. -/
theorem getD_lastGiven_cons (deed : δ) (deeds : List δ) (before : τ) :
    (lastGiven given (deed :: deeds)).getD before =
      (lastGiven given deeds).getD ((given deed).getD before) := by
  rw [lastGiven_cons]
  cases lastGiven given deeds <;> rfl

variable (reading : σ → τ)

/-- The part of a state that each deed sets to what it gives is in the end what was given last. -/
theorem reading_foldl (given : δ → Option τ) {step : σ → δ → σ}
    (stepped : ∀ state deed, reading (step state deed) = (given deed).getD (reading state))
    (deeds : List δ) (state : σ) :
    reading (deeds.foldl step state) = (lastGiven given deeds).getD (reading state) := by
  induction deeds generalizing state with
  | nil => rfl
  | cons deed deeds inductionHypothesis =>
    rw [List.foldl_cons, inductionHypothesis, stepped, getD_lastGiven_cons]

/-- The same of deeds that may be refused, when none of them is. -/
theorem reading_forM (given : δ → Option τ) {act : δ → Effect σ Unit}
    (acted : ∀ state deed left, (act deed).runOn state = (.ok (), left) →
      reading left = (given deed).getD (reading state))
    {deeds : List δ} {state left : σ} (done : (deeds.forM act).runOn state = (.ok (), left)) :
    reading left = (lastGiven given deeds).getD (reading state) := by
  induction deeds generalizing state with
  | nil =>
    obtain ⟨-, rfl⟩ := Prod.mk.inj done
    rfl
  | cons deed deeds inductionHypothesis =>
    obtain ⟨_, middle, done', others⟩ := Effect.bind_ok done
    rw [inductionHypothesis others, acted state deed middle done', getD_lastGiven_cons]

/-- A part that no deed changes stays. -/
theorem kept_foldl {step : σ → δ → σ}
    (kept : ∀ state deed, reading (step state deed) = reading state) (deeds : List δ) (state : σ) :
    reading (deeds.foldl step state) = reading state := by
  have unchanged := reading_foldl reading (fun _ => none) kept deeds state
  rwa [lastGiven_none] at unchanged

theorem kept_forM {act : δ → Effect σ Unit}
    (kept : ∀ state deed left, (act deed).runOn state = (.ok (), left) →
      reading left = reading state)
    {deeds : List δ} {state left : σ} (done : (deeds.forM act).runOn state = (.ok (), left)) :
    reading left = reading state := by
  have unchanged := reading_forM reading (fun _ => none) kept done
  rwa [lastGiven_none] at unchanged

end Last

/-- A loop that goes through a list to its end does one thing after the other. -/
theorem Effect.forIn_eq_forM {σ δ : Type} (act : δ → Effect σ Unit) (deeds : List δ) :
    (forIn deeds PUnit.unit fun deed _ => do
      act deed
      pure (ForInStep.yield PUnit.unit)) = deeds.forM act := by
  induction deeds with
  | nil => rfl
  | cons deed deeds inductionHypothesis =>
    rw [List.forIn_cons, bind_assoc, List.forM]
    congr 1
    funext _
    rw [pure_bind]
    exact inductionHypothesis

/-! ## What each source gives -/

namespace Setting

theorem ofVariable?_eq_some_iff {name : String} {setting : Setting} :
    ofVariable? name = some setting ↔ setting.variableName = name := by
  constructor
  · intro found
    simpa using List.find?_some found
  · rintro rfl
    cases setting <;> decide +kernel

theorem named?_eq_some_iff {name : String} {setting : Setting} :
    named? name = some setting ↔ setting.name = name := by
  constructor
  · intro found
    simpa using List.find?_some found
  · rintro rfl
    cases setting <;> decide +kernel

/-- The setting that an entry is for, if its name is that of one. -/
def ofKey? : Value → Option Setting
  | .str name => named? name
  | _ => none

theorem ofKey?_eq_some_iff {key : Value} {setting : Setting} :
    ofKey? key = some setting ↔ key.isStr setting.name = true := by
  cases key with
  | str name => rw [ofKey?, named?_eq_some_iff, Value.isStr, decide_eq_true_iff, eq_comm]
  | _ => simp [ofKey?, Value.isStr]

/-- What a variable gives for a setting: what its text is read as, if it is the variable of the
setting and can be read. -/
def ofBinding? (setting : Setting) (binding : String × String) : Option Value :=
  if setting.variableName = binding.1 then setting.kind.read? binding.2 else none

/-- A variable that sets nothing gives nothing for any setting. -/
theorem ofBinding?_of_unknown {name : String} (unknown : ofVariable? name = none)
    (setting : Setting) (text : String) : setting.ofBinding? (name, text) = none := by
  refine if_neg fun same : setting.variableName = name => ?_
  rw [ofVariable?_eq_some_iff.mpr same] at unknown
  cases unknown

/-- What an entry of a provider gives for a setting. -/
def ofEntry? (setting : Setting) (entry : Value × Value) : Option Value :=
  if entry.1.isStr setting.name then some entry.2 else none

/-- What a provider gives for a setting. One that fails or returns no entries gives nothing. -/
def ofProvider? (setting : Setting) : Provider → Option Value
  | .ok (.map entries) => lastGiven setting.ofEntry? entries
  | _ => none

end Setting

namespace Environment

variable {surroundings : Surroundings} {environment left : Environment} {setting : Setting}

/-- The variables that the first file of variables sets, if there is one. -/
def assigned (environment : Environment) (surroundings : Surroundings) :
    Except Fault (List (String × String)) := do
  match ← firstFile surroundings.files (environment.candidates surroundings) with
  | none => return []
  | some path => return Variables.ofText (← surroundings.files.readText path)

/-- The part of an environment that collecting leaves alone. -/
def plan (environment : Environment) : Option Path × List Provider :=
  (environment.base, environment.providers)

/-! ### Variables -/

theorem values_apply (source : String) (binding : String × String) :
    (environment.apply source binding.1 binding.2).values setting =
      (setting.ofBinding? binding).getD (environment.values setting) := by
  obtain ⟨name, text⟩ := binding
  cases known : Setting.ofVariable? name with
  | none =>
    rw [Setting.ofBinding?_of_unknown known]
    simp [apply, known]
  | some owner =>
    have owned : setting.variableName = name ↔ owner = setting := by
      rw [← Setting.ofVariable?_eq_some_iff, known, Option.some.injEq]
    by_cases same : owner = setting
    · subst same
      cases read : owner.kind.read? text <;>
        simp [apply, Setting.ofBinding?, known, owned, read, set, note]
    · have apart : setting ≠ owner := Ne.symm same
      cases read : owner.kind.read? text <;>
        simp [apply, Setting.ofBinding?, known, owned, read, set, note, same, apart]

theorem plan_apply (source name text : String) :
    (environment.apply source name text).plan = environment.plan := by
  unfold apply
  split
  · rfl
  · split <;> rfl

/-- The file of variables sets what it assigns, line by line. -/
theorem loadFile_ok (done : (loadFile surroundings).runOn environment = (.ok (), left)) :
    ∃ bindings, environment.assigned surroundings = .ok bindings ∧
      left.plan = environment.plan ∧
      ∀ setting : Setting, left.values setting =
        (lastGiven setting.ofBinding? bindings).getD (environment.values setting) := by
  rw [loadFile, Effect.runOn_get_bind, Effect.runOn_lift_bind] at done
  cases found : firstFile surroundings.files (environment.candidates surroundings) with
  | error f => simp [found] at done
  | ok path? =>
    cases path? with
    | none =>
      simp only [found, Effect.runOn_pure, Prod.mk.injEq, true_and] at done
      subst done
      exact ⟨[], by rw [assigned, found]; rfl, rfl, fun setting => rfl⟩
    | some path =>
      simp only [found, Effect.runOn_lift_bind] at done
      cases read : surroundings.files.readText path with
      | error f => simp [read] at done
      | ok text =>
        simp only [read, Effect.runOn_modify, Prod.mk.injEq, true_and] at done
        subst done
        refine ⟨Variables.ofText text, ?_, ?_, fun setting => ?_⟩
        · rw [assigned, found]
          simp only [bind, Except.bind, read, pure, Except.pure]
        · exact kept_foldl plan
            (fun environment (binding : String × String) =>
              plan_apply path.text binding.1 binding.2) _ environment
        · exact reading_foldl (Environment.values · setting) setting.ofBinding?
            (fun environment (binding : String × String) => values_apply path.text binding) _
            environment

theorem values_loadVariables :
    (loadVariables surroundings environment).values setting =
      (lastGiven setting.ofBinding? surroundings.bindings).getD (environment.values setting) := by
  refine reading_foldl (Environment.values · setting) setting.ofBinding?
    (fun environment binding => ?_) surroundings.bindings environment
  obtain ⟨name, text⟩ := binding
  cases known : Setting.ofVariable? name with
  | none =>
    rw [Setting.ofBinding?_of_unknown known]
    simp [known]
  | some owner =>
    simp only [known, Option.isSome_some, if_true]
    exact values_apply "environment" (name, text)

theorem plan_loadVariables :
    (loadVariables surroundings environment).plan = environment.plan :=
  kept_foldl plan
    (fun environment (binding : String × String) => by
      dsimp only
      split
      · exact plan_apply "environment" binding.1 binding.2
      · rfl)
    surroundings.bindings environment

/-! ### Providers -/

theorem takeEntry_of_known {key : Value} {owner : Setting}
    (known : Setting.ofKey? key = some owner) (v : Value) :
    takeEntry key v = modify (set owner v) := by
  cases key with
  | str name =>
    rw [Setting.ofKey?] at known
    simp only [takeEntry, known]
  | _ => cases known

theorem takeEntry_of_unknown {key : Value} (unknown : Setting.ofKey? key = none) (v : Value) :
    ∃ message : String → String, takeEntry key v =
      lift key.text >>= fun name => modify (note .warning (message name)) := by
  cases key with
  | str name =>
    rw [Setting.ofKey?] at unknown
    simp only [takeEntry, unknown]
    exact ⟨_, rfl⟩
  | _ => exact ⟨_, rfl⟩

/-- An entry under the name of a setting sets it, and one under another name sets nothing. -/
theorem takeEntry_ok {entry : Value × Value}
    (taken : (takeEntry entry.1 entry.2).runOn environment = (.ok (), left)) :
    left.plan = environment.plan ∧ ∀ setting : Setting,
      left.values setting = (setting.ofEntry? entry).getD (environment.values setting) := by
  obtain ⟨key, v⟩ := entry
  cases known : Setting.ofKey? key with
  | some owner =>
    rw [takeEntry_of_known known, Effect.runOn_modify] at taken
    obtain ⟨-, rfl⟩ := Prod.mk.inj taken
    refine ⟨rfl, fun setting => ?_⟩
    have named : key.isStr setting.name = true ↔ setting = owner := by
      rw [← Setting.ofKey?_eq_some_iff, known, Option.some.injEq, eq_comm]
    by_cases same : setting = owner
    · rw [Setting.ofEntry?, if_pos (named.mpr same)]
      exact if_pos same
    · rw [Setting.ofEntry?, if_neg fun told => same (named.mp told)]
      exact if_neg same
  | none =>
    obtain ⟨message, taking⟩ := takeEntry_of_unknown known v
    rw [taking, Effect.runOn_lift_bind] at taken
    cases told : key.text with
    | error f => simp [told] at taken
    | ok name =>
      simp only [told, Effect.runOn_modify, Prod.mk.injEq, true_and] at taken
      subst taken
      refine ⟨rfl, fun setting => ?_⟩
      have other : ¬ key.isStr setting.name = true := by
        rw [← Setting.ofKey?_eq_some_iff, known]
        simp
      rw [Setting.ofEntry?, if_neg other]
      rfl

/-- A provider sets what it returns entries for, and sets nothing when it fails. -/
theorem consult_ok {provider : Provider}
    (consulted : (consult provider).runOn environment = (.ok (), left)) :
    left.plan = environment.plan ∧ ∀ setting : Setting,
      left.values setting = (setting.ofProvider? provider).getD (environment.values setting) := by
  cases provider with
  | error f =>
    rw [consult, Effect.runOn_lift_bind] at consulted
    cases told : f.text with
    | error g => simp [told] at consulted
    | ok reason =>
      simp only [told, Effect.runOn_modify, Prod.mk.injEq, true_and] at consulted
      subst consulted
      exact ⟨rfl, fun setting => rfl⟩
  | ok v =>
    cases v with
    | map entries =>
      have taken : (entries.forM fun entry => takeEntry entry.1 entry.2).runOn environment =
          (.ok (), left) := by
        cases entries with
        | nil => exact consulted
        | cons entry rest => exact consulted
      exact ⟨kept_forM plan (fun _ _ _ taken => (takeEntry_ok taken).1) taken,
        fun setting => reading_forM (Environment.values · setting) setting.ofEntry?
          (fun _ _ _ taken => (takeEntry_ok taken).2 setting) taken⟩
    | _ =>
      simp only [consult] at consulted
      split at consulted
      · cases consulted
      · obtain ⟨-, rfl⟩ := Prod.mk.inj consulted
        exact ⟨rfl, fun setting => rfl⟩

/-! ### Everything -/

/-- Collects what is given, without making the paths absolute. -/
def collect (surroundings : Surroundings) : Effect Environment Unit := do
  loadFile surroundings
  modify (loadVariables surroundings)
  (← get).providers.forM consult

/-- Loading is collecting, after which the paths are made absolute. -/
theorem load_eq : load surroundings = collect surroundings >>= fun _ => get >>= fun collected =>
    resolvePaths surroundings.files.here
      (collected.base.getD ⟨"/", surroundings.files.here⟩) := by
  simp only [load, collect, bind_assoc, Effect.forIn_eq_forM]

/-- What is collected for a setting is what the last provider gives, else what the last variable
of the process gives, else what the last line of the file gives, else what was there. -/
theorem collect_ok (done : (collect surroundings).runOn environment = (.ok (), left)) :
    ∃ bindings, environment.assigned surroundings = .ok bindings ∧
      left.plan = environment.plan ∧
      ∀ setting : Setting, left.values setting =
        (((lastGiven setting.ofProvider? environment.providers).or
          (lastGiven setting.ofBinding? surroundings.bindings)).or
          (lastGiven setting.ofBinding? bindings)).getD (environment.values setting) := by
  obtain ⟨_, assigning, loaded, done⟩ := Effect.bind_ok done
  rw [Effect.runOn_modify_bind, Effect.runOn_get_bind] at done
  obtain ⟨bindings, assigned, planned, given⟩ := loadFile_ok loaded
  have kept : (loadVariables surroundings assigning).plan = environment.plan :=
    plan_loadVariables.trans planned
  have consulted : (environment.providers.forM consult).runOn
      (loadVariables surroundings assigning) = (.ok (), left) := by
    rw [← show (loadVariables surroundings assigning).providers = environment.providers from
      congrArg Prod.snd kept]
    exact done
  refine ⟨bindings, assigned, (kept_forM plan
    (fun _ _ _ consulted => (consult_ok consulted).1) consulted).trans kept, fun setting => ?_⟩
  rw [reading_forM (Environment.values · setting) setting.ofProvider?
    (fun _ _ _ consulted => (consult_ok consulted).2 setting) consulted, values_loadVariables,
    given setting]
  cases lastGiven setting.ofProvider? environment.providers <;>
    cases lastGiven setting.ofBinding? surroundings.bindings <;> rfl

/-- Makes one path setting absolute. -/
def resolvePath (here : Place) (base : Path) (setting : Setting) : Effect Environment Unit := do
  let path ← lift (absolutePath here base ((← get).values setting))
  modify (Environment.set setting path)

/-- Paths that are made absolute one after the other are each made so from what they were. -/
theorem resolve_ok {here : Place} {base : Path} {paths : List Setting} (nodup : paths.Nodup)
    (done : (paths.forM (resolvePath here base)).runOn environment = (.ok (), left))
    (setting : Setting) :
    if setting ∈ paths then
      absolutePath here base (environment.values setting) = .ok (left.values setting)
    else left.values setting = environment.values setting := by
  induction paths generalizing environment with
  | nil =>
    obtain ⟨-, rfl⟩ := Prod.mk.inj done
    rfl
  | cons first rest inductionHypothesis =>
    obtain ⟨absent, nodup⟩ := List.nodup_cons.mp nodup
    obtain ⟨_, middle, done', others⟩ := Effect.bind_ok done
    have later := inductionHypothesis nodup others
    rw [resolvePath, Effect.runOn_get_bind, Effect.runOn_lift_bind] at done'
    cases made : absolutePath here base (environment.values first) with
    | error f => simp [made] at done'
    | ok path =>
      simp only [made, Effect.runOn_modify, Prod.mk.injEq, true_and] at done'
      subst done'
      by_cases same : setting = first
      · subst same
        rw [if_neg absent] at later
        rw [if_pos List.mem_cons_self, later, made]
        simp [set]
      · simpa [set, same] using later

/-- A setting that is not there has no value. -/
theorem getNamed_of_unknown {name : String} (unknown : ∀ setting : Setting, setting.name ≠ name)
    (fallback : Value) (environment : Environment) :
    environment.getNamed name fallback = fallback := by
  have none : Setting.named? name = none := by
    cases known : Setting.named? name with
    | none => rfl
    | some setting => exact absurd (Setting.named?_eq_some_iff.mp known) (unknown setting)
  rw [getNamed, none]

theorem getNamed_name (setting : Setting) (fallback : Value) (environment : Environment) :
    environment.getNamed setting.name fallback = environment.values setting := by
  rw [getNamed, Setting.named?_eq_some_iff.mpr rfl]

/-- A loading that completes leaves every setting there was and no other. Before the paths are made
absolute, each setting is what the last provider with an entry for it gives, else what its variable
is read as, else what the last line of the file that can be read for it is read as, else what it was
before; afterwards the paths are these made absolute and all else is the same. -/
theorem load_last_given (surroundings : Surroundings) (environment left : Environment)
    (done : (load surroundings).runOn environment = (.ok (), left)) :
    ∃ bindings collected, environment.assigned surroundings = .ok bindings ∧
      (collect surroundings).runOn environment = (.ok (), collected) ∧
      (∀ setting : Setting, collected.values setting =
        (((lastGiven setting.ofProvider? environment.providers).or
          (lastGiven setting.ofBinding? surroundings.bindings)).or
          (lastGiven setting.ofBinding? bindings)).getD (environment.values setting)) ∧
      (∀ setting : Setting, if setting.isPath then
          absolutePath surroundings.files.here
            (environment.base.getD ⟨"/", surroundings.files.here⟩) (collected.values setting) =
            .ok (left.values setting)
        else left.values setting = collected.values setting) ∧
      (∀ (setting : Setting) (fallback : Value),
        left.getNamed setting.name fallback = left.values setting) ∧
      ∀ name : String, (∀ setting : Setting, setting.name ≠ name) →
        ∀ fallback, left.getNamed name fallback = fallback := by
  rw [load_eq] at done
  obtain ⟨_, collected, first, resolved⟩ := Effect.bind_ok done
  obtain ⟨bindings, assigned, planned, given⟩ := collect_ok first
  rw [Effect.runOn_get_bind, show collected.base = environment.base from
    congrArg Prod.fst planned] at resolved
  refine ⟨bindings, collected, assigned, first, given, fun setting => ?_,
    fun setting fallback => getNamed_name setting fallback left,
    fun name unknown fallback => getNamed_of_unknown unknown fallback left⟩
  have made := resolve_ok (by decide) resolved setting
  have path : setting ∈ Setting.all.filter Setting.isPath ↔ setting.isPath = true := by
    cases setting <;> decide
  simpa only [path] using made

namespace Sample

/-- A file of which one line cannot be read and another is overridden by a variable. -/
def desk : Surroundings where
  files := ⟨[(["work"], .directory), (["work", ".env"], .file
    "EXECUTION_RETENTION_DAYS=3\nEXECUTION_RETENTION_DAYS=soon\nLOG_LEVEL=DEBUG".toUTF8.toList)],
    ["work"]⟩
  home := ⟨"/", ["home"]⟩
  bindings := [("LOG_LEVEL", "ERROR"), ("DEFAULT_LIST_LIMIT", "many")]

/-- A provider that fails between two that return entries, one of which nobody knows. -/
def fresh : Environment :=
  create none none [.ok (.map [(.str "log_file", .str "a.log")]), .error (.valueError "down"),
    .ok (.map [(.str "log_file", .str "b.log"), (.str "colour", .str "red")])]

end Sample

/-- What counts is the last number of days that can be read, the level of the variable and the later
file of messages, made absolute; a limit that cannot be read leaves the one there was. -/
theorem load_last_given_desk :
    ∃ left, (load Sample.desk).runOn Sample.fresh = (.ok (), left) ∧
      left.values .retentionDays = .int 3 ∧ left.values .logLevel = .str "ERROR" ∧
      left.values .listLimit = .int 10 ∧
      absolutePath ["work"] ⟨"/", ["work"]⟩ (.str "b.log") = .ok (left.values .logFile) := by
  have completes : ((load Sample.desk).runOn Sample.fresh).1.isOk = true := by decide +kernel
  have lines : (Sample.fresh.assigned Sample.desk).toOption =
      some [("EXECUTION_RETENTION_DAYS", "3"), ("EXECUTION_RETENTION_DAYS", "soon"),
        ("LOG_LEVEL", "DEBUG")] := by decide +kernel
  have three : SettingKind.whole.read? "3" = some (.int 3) :=
    congrArg (Option.map Value.int) (by decide +kernel : Numeral.readInt? "3".toList = some 3)
  have soon : SettingKind.whole.read? "soon" = none :=
    congrArg (Option.map Value.int) (by decide +kernel : Numeral.readInt? "soon".toList = none)
  have many : SettingKind.whole.read? "many" = none :=
    congrArg (Option.map Value.int) (by decide +kernel : Numeral.readInt? "many".toList = none)
  have level (text : String) : SettingKind.text.read? text = some (.str text) := rfl
  rcases loaded : (load Sample.desk).runOn Sample.fresh with ⟨_ | ⟨⟨⟩⟩, left⟩
  · simp [loaded, Except.isOk, Except.toBool] at completes
  obtain ⟨bindings, collected, assigned, -, given, made, -⟩ :=
    load_last_given Sample.desk Sample.fresh left loaded
  rw [assigned] at lines
  obtain rfl := Option.some.inj lines
  simp only [lastGiven, Sample.desk, Sample.fresh, create, List.reverse_cons, List.reverse_nil,
    List.nil_append, List.cons_append, List.findSome?_cons, List.findSome?_nil,
    Setting.ofBinding?, Setting.ofProvider?, Setting.ofEntry?, Value.isStr] at given
  refine ⟨left, rfl, ?_, ?_, ?_, ?_⟩
  · refine (made .retentionDays).trans ((given _).trans ?_)
    simp [Setting.variableName, Setting.name, Setting.kind, three, soon]
  · refine (made .logLevel).trans ((given _).trans ?_)
    simp [Setting.variableName, Setting.name, Setting.kind, level]
  · refine (made .listLimit).trans ((given _).trans ?_)
    simp [Setting.variableName, Setting.name, Setting.kind, many, Setting.default]
  · have path : absolutePath ["work"] ⟨"/", ["work"]⟩ (collected.values .logFile) =
      .ok (left.values .logFile) := made .logFile
    rw [given] at path
    simpa [Setting.name] using path

end Environment

end Stepwise
