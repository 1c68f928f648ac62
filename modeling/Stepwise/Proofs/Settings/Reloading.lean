import Stepwise.Proofs.Disk.Directory
import Stepwise.Proofs.Settings.Precedence
import Stepwise.Proofs.Settings.Variables

/-!
# Loading the settings again

A loading works on what the last one left. What is given again is given the same again, and what is
not given stays: a path that was made absolute leads up nowhere, so it is made absolute to itself.
The variables are kept where they were with the values they had. So a loading that completed
completes again and changes neither the settings nor the variables.
-/

namespace Stepwise

/-! ## Effects that take no notice of the state -/

namespace Effect

variable {σ α β : Type}

/-- What the effect comes to is the same in every state. -/
def IsSteady (effect : Effect σ α) : Prop :=
  ∀ state other, (effect.runOn state).1 = (effect.runOn other).1

theorem isSteady_lift (result : Except Fault α) : (lift result : Effect σ α).IsSteady :=
  fun state other => by rw [runOn_lift, runOn_lift]

theorem isSteady_modify (change : σ → σ) : (modify change : Effect σ PUnit).IsSteady :=
  fun _ _ => rfl

theorem IsSteady.bind {effect : Effect σ α} {next : α → Effect σ β} (first : effect.IsSteady)
    (later : ∀ a, (next a).IsSteady) : (effect >>= next).IsSteady := by
  intro state other
  have same := first state other
  rw [runOn_bind, runOn_bind]
  rcases here : effect.runOn state with ⟨result, left⟩
  rcases there : effect.runOn other with ⟨result', left'⟩
  rw [here, there] at same
  obtain rfl : result = result' := same
  cases result with
  | error f => rfl
  | ok a => exact later a left left'

theorem isSteady_forM {δ : Type} {act : δ → Effect σ Unit} (each : ∀ deed, (act deed).IsSteady)
    (deeds : List δ) : (deeds.forM act).IsSteady := by
  induction deeds with
  | nil => exact fun _ _ => rfl
  | cons deed deeds inductionHypothesis => exact (each deed).bind fun _ => inductionHypothesis

/-- An effect that completed completes again, wherever it starts. -/
theorem IsSteady.again {effect : Effect σ α} (steady : effect.IsSteady) {state left : σ} {a : α}
    (done : effect.runOn state = (.ok a, left)) (other : σ) :
    ∃ left', effect.runOn other = (.ok a, left') :=
  ⟨(effect.runOn other).2, Prod.ext ((steady other state).trans (by rw [done])) rfl⟩

end Effect

/-! ## Paths without detours -/

namespace Path

/-- A name that leads one place down, and that the system can look at. -/
structure IsStraightName (name : String) : Prop where
  plain : IsPlainName name
  nulless : '\x00' ∉ name.toList
  apart : name ≠ ".."

/-- The text of a path from the root in which every name leads one place down. -/
def IsSettled (text : String) : Prop :=
  text.toList.head? = some '/' ∧ ∀ part ∈ Text.splitAt '/' text.toList, part ≠ ['.'] ∧ part ≠ ['.', '.']

/-- A path below a plain one is plain. -/
theorem IsPlain.join {base : Path} (plain : base.IsPlain) (below : String) :
    (base.join below).IsPlain := by
  rw [Path.join]
  split
  · exact isPlain_ofText below
  · exact ⟨plain.root, fun name member => (List.mem_append.mp member).elim (plain.names name)
      ((isPlain_ofText below).names name)⟩

variable {names : List String} (straight : ∀ name ∈ names, IsStraightName name)

include straight

theorem ofText_straight : ofText (Path.text ⟨"/", names⟩) = ⟨"/", names⟩ := by
  by_cases none : names = []
  · subst none
    decide +kernel
  · exact ofText_text ⟨.inr (.inl rfl), fun name member => (straight name member).plain⟩ none

/-- The text has the names between its slashes, and nothing before the first one. -/
theorem isSettled_straight : IsSettled (Path.text ⟨"/", names⟩) := by
  have told : (Path.text ⟨"/", names⟩).toList = '/' :: ("/".intercalate names).toList := by
    rw [Path.text, if_neg (by simp), String.toList_append]
    simp
  rw [IsSettled, told, Text.splitAt_cons_mark]
  refine ⟨rfl, List.forall_mem_cons.mpr ⟨by decide, ?_⟩⟩
  by_cases none : names = []
  · subst none
    decide
  · rw [splitAt_intercalate none fun name member => (straight name member).plain]
    intro part member
    obtain ⟨name, listed, rfl⟩ := List.mem_map.mp member
    obtain ⟨⟨-, -, still⟩, -, apart⟩ := straight name listed
    exact ⟨fun same => still (String.toList_inj.mp same),
      fun same => apart (String.toList_inj.mp same)⟩

/-- Straight names are all kept. -/
theorem resolved_of_straight (here : Place) :
    Path.resolved here ⟨"/", names⟩ = Path.text ⟨"/", names⟩ := by
  have kept (start : List String) : names.foldl
      (fun names name => if name = ".." then names.dropLast else names ++ [name]) start =
        start ++ names := by
    induction names generalizing start with
    | nil => exact (List.append_nil start).symm
    | cons name rest inductionHypothesis =>
      obtain ⟨first, later⟩ := List.forall_mem_cons.mp straight
      rw [List.foldl_cons, if_neg first.apart, inductionHypothesis later, List.append_assoc,
        List.singleton_append]
  rw [resolved]
  exact congrArg (fun names => Path.text ⟨"/", names⟩) (kept [])

omit straight in
/-- Names that lead up take names back, so what is left is straight. -/
theorem exists_resolved {here : Place} {path : Path}
    (plain : ∀ name ∈ if path.isAbsolute then path.names else here ++ path.names,
      IsPlainName name ∧ '\x00' ∉ name.toList) :
    ∃ names, path.resolved here = Path.text ⟨"/", names⟩ ∧
      ∀ name ∈ names, IsStraightName name := by
  refine ⟨_, rfl, List.foldlRecOn (motive := fun names => ∀ name ∈ names, IsStraightName name)
    _ _ (fun _ member => absurd member List.not_mem_nil) fun names straight name member => ?_⟩
  split
  · exact fun name listed => straight name (List.dropLast_subset names listed)
  · rename_i apart
    intro other listed
    rcases List.mem_append.mp listed with before | last
    · exact straight other before
    · obtain rfl := List.mem_singleton.mp last
      exact ⟨(plain other member).1, (plain other member).2, apart⟩

end Path

section Path

variable {here : Place} {base : Path}

/-- A path setting that was made absolute is not set or has a text without detours. -/
theorem exists_straight (places : ∀ name ∈ here, IsFileName name) (plain : base.IsPlain)
    {v w : Value} (made : absolutePath here base v = .ok w) :
    w = .null ∨ ∃ names, w = .str (Path.text ⟨"/", names⟩) ∧
      ∀ name ∈ names, Path.IsStraightName name := by
  cases v with
  | null => exact .inl (Except.ok.inj made).symm
  | str s =>
    refine .inr ?_
    rw [absolutePath] at made
    split at made
    · cases made
    · rename_i nulless
      have joined : ∀ name ∈ (base.join s).names,
          Path.IsPlainName name ∧ '\x00' ∉ name.toList := by
        intro name member
        refine ⟨(plain.join s).names name member, fun null => nulless ?_⟩
        exact List.any_eq_true.mpr ⟨name, member, List.contains_iff_mem.mpr null⟩
      have followed : ∀ name ∈ if (base.join s).isAbsolute then (base.join s).names
          else here ++ (base.join s).names, Path.IsPlainName name ∧ '\x00' ∉ name.toList := by
        intro name member
        split at member
        · exact joined name member
        · rcases List.mem_append.mp member with outer | inner
          · exact ⟨(places name outer).isPlainName, (places name outer).nulless⟩
          · exact joined name inner
      obtain ⟨names, resolved, straight⟩ := Path.exists_resolved followed
      exact ⟨names, by rw [← resolved, ← Except.ok.inj made], straight⟩
  | _ => cases made

theorem absolutePath_straight {names : List String}
    (straight : ∀ name ∈ names, Path.IsStraightName name) :
    absolutePath here base (.str (Path.text ⟨"/", names⟩)) =
      .ok (.str (Path.text ⟨"/", names⟩)) := by
  have joined : base.join (Path.text ⟨"/", names⟩) = ⟨"/", names⟩ := by
    rw [Path.join, Path.ofText_straight straight]
    rfl
  have nulless : ¬ (names.any fun name => name.toList.contains '\x00') = true := by
    intro null
    obtain ⟨name, member, there⟩ := List.any_eq_true.mp null
    exact (straight name member).nulless (List.contains_iff_mem.mp there)
  rw [absolutePath, joined]
  dsimp only
  rw [if_neg nulless, Path.resolved_of_straight straight]

/-- A path setting that was made absolute is made absolute to itself. -/
theorem absolutePath_again (places : ∀ name ∈ here, IsFileName name) (plain : base.IsPlain)
    {v w : Value} (made : absolutePath here base v = .ok w) : absolutePath here base w = .ok w := by
  rcases exists_straight places plain made with rfl | ⟨names, rfl, straight⟩
  · rfl
  · exact absolutePath_straight straight

end Path

namespace Environment

variable {surroundings : Surroundings} {environment left : Environment}

/-! ## What a loading keeps -/

/-- What a provider gives is taken or refused whatever the settings are. -/
theorem isSteady_takeEntry (key v : Value) : (takeEntry key v).IsSteady := by
  cases known : Setting.ofKey? key with
  | some owner =>
    rw [takeEntry_of_known known]
    exact Effect.isSteady_modify _
  | none =>
    obtain ⟨message, taking⟩ := takeEntry_of_unknown known v
    rw [taking]
    exact (Effect.isSteady_lift _).bind fun _ => Effect.isSteady_modify _

theorem isSteady_consult (provider : Provider) : (consult provider).IsSteady := by
  cases provider with
  | error f => exact (Effect.isSteady_lift _).bind fun _ => Effect.isSteady_modify _
  | ok v =>
    cases v with
    | map entries =>
      simp only [consult]
      split
      · exact Effect.isSteady_forM (fun entry => isSteady_takeEntry entry.1 entry.2) entries
      · exact fun _ _ => rfl
    | _ =>
      simp only [consult]
      split <;> exact fun _ _ => rfl

/-- Where variables are looked for, and the variables that were found. -/
def record (environment : Environment) : Option Path × List (String × String) :=
  (environment.file, environment.bindings)

theorem record_takeEntry {entry : Value × Value}
    (taken : (takeEntry entry.1 entry.2).runOn environment = (.ok (), left)) :
    left.record = environment.record := by
  obtain ⟨key, v⟩ := entry
  cases known : Setting.ofKey? key with
  | some owner =>
    rw [takeEntry_of_known known, Effect.runOn_modify] at taken
    obtain ⟨-, rfl⟩ := Prod.mk.inj taken
    rfl
  | none =>
    obtain ⟨message, taking⟩ := takeEntry_of_unknown known v
    rw [taking] at taken
    obtain ⟨name, _, told, noted⟩ := Effect.bind_ok taken
    rw [Effect.runOn_lift] at told
    obtain ⟨-, rfl⟩ := Prod.mk.inj told
    obtain ⟨-, rfl⟩ := Prod.mk.inj noted
    rfl

theorem record_consult {provider : Provider}
    (consulted : (consult provider).runOn environment = (.ok (), left)) :
    left.record = environment.record := by
  cases provider with
  | error f =>
    obtain ⟨reason, _, told, noted⟩ := Effect.bind_ok consulted
    rw [Effect.runOn_lift] at told
    obtain ⟨-, rfl⟩ := Prod.mk.inj told
    obtain ⟨-, rfl⟩ := Prod.mk.inj noted
    rfl
  | ok v =>
    cases v with
    | map entries =>
      simp only [consult] at consulted
      split at consulted
      · exact kept_forM record (fun _ _ _ taken => record_takeEntry taken) consulted
      · obtain ⟨-, rfl⟩ := Prod.mk.inj consulted
        rfl
    | _ =>
      simp only [consult] at consulted
      split at consulted
      · cases consulted
      · obtain ⟨-, rfl⟩ := Prod.mk.inj consulted
        rfl

theorem kept_resolvePath {here : Place} {base : Path} {setting : Setting}
    (resolved : (resolvePath here base setting).runOn environment = (.ok (), left)) :
    left.record = environment.record ∧ left.plan = environment.plan := by
  rw [resolvePath, Effect.runOn_get_bind] at resolved
  obtain ⟨path, _, made, done⟩ := Effect.bind_ok resolved
  rw [Effect.runOn_lift] at made
  obtain ⟨-, rfl⟩ := Prod.mk.inj made
  obtain ⟨-, rfl⟩ := Prod.mk.inj done
  exact ⟨rfl, rfl⟩

/-! ## Collecting again -/

/-- The variables of the process that set something. -/
def known (surroundings : Surroundings) : List (String × String) :=
  surroundings.bindings.filter fun binding => (Setting.ofVariable? binding.1).isSome

theorem loadVariables_eq (surroundings : Surroundings) (environment : Environment) :
    loadVariables surroundings environment =
      environment.applyAll "environment" (known surroundings) := by
  rw [applyAll, known, List.foldl_filter]
  rfl

theorem file_applyAll (source : String) (pairs : List (String × String))
    (environment : Environment) : (environment.applyAll source pairs).file = environment.file :=
  kept_foldl Environment.file (fun environment pair => by
    unfold apply
    split
    · rfl
    · split <;> rfl) pairs environment

theorem plan_applyAll (source : String) (pairs : List (String × String))
    (environment : Environment) : (environment.applyAll source pairs).plan = environment.plan :=
  kept_foldl plan (fun _ (pair : String × String) =>
    plan_apply source pair.1 pair.2) pairs environment

/-- What the file assigns depends on where it is looked for only. -/
theorem assigned_of_file {other : Environment} (same : other.file = environment.file)
    (surroundings : Surroundings) :
    other.assigned surroundings = environment.assigned surroundings := by
  rw [assigned, assigned, candidates, candidates, same]

theorem runOn_loadFile_of_assigned {bindings : List (String × String)}
    (assigns : environment.assigned surroundings = .ok bindings) :
    ∃ source, (loadFile surroundings).runOn environment =
      (.ok (), environment.applyAll source bindings) := by
  rw [runOn_loadFile]
  obtain ⟨path?, found, rest⟩ := Result.bind_ok assigns
  cases path? with
  | none =>
    obtain rfl := Except.ok.inj rest
    exact ⟨"", by rw [found]; rfl⟩
  | some path =>
    obtain ⟨text, read, told⟩ := Result.bind_ok rest
    obtain rfl := Except.ok.inj told
    exact ⟨path.text, by rw [found]; dsimp only; rw [read]⟩

/-- Collecting sets the variables of the file and those of the process, and asks the providers. -/
theorem runOn_collect {bindings : List (String × String)}
    (assigns : environment.assigned surroundings = .ok bindings) :
    ∃ source, (collect surroundings).runOn environment =
      (environment.providers.forM consult).runOn
        ((environment.applyAll source bindings).applyAll "environment" (known surroundings)) := by
  obtain ⟨source, loaded⟩ := runOn_loadFile_of_assigned assigns
  refine ⟨source, ?_⟩
  rw [collect, Effect.runOn_bind, loaded]
  dsimp only
  rw [Effect.runOn_modify_bind, Effect.runOn_get_bind, loadVariables_eq]
  exact congrArg (fun plan : Option Path × List Provider => (plan.2.forM consult).runOn _)
    ((plan_applyAll _ _ _).trans (plan_applyAll _ _ _))

/-- What collecting leaves of the variables. -/
theorem record_collect {bindings : List (String × String)}
    (assigns : environment.assigned surroundings = .ok bindings)
    (done : (collect surroundings).runOn environment = (.ok (), left)) :
    left.record = (environment.file,
      Variables.insertAll (bindings ++ known surroundings) environment.bindings) := by
  obtain ⟨source, collected⟩ := runOn_collect assigns
  rw [collected] at done
  rw [kept_forM record (fun _ _ _ consulted => record_consult consulted) done, record,
    file_applyAll, file_applyAll, bindings_applyAll, bindings_applyAll, Variables.insertAll_append]

/-- Collecting completes again from every environment of the same plan. -/
theorem collect_again {bindings : List (String × String)} {other : Environment}
    (assigns : environment.assigned surroundings = .ok bindings)
    (done : (collect surroundings).runOn environment = (.ok (), left))
    (assigns' : other.assigned surroundings = .ok bindings)
    (planned : other.plan = environment.plan) :
    ∃ again, (collect surroundings).runOn other = (.ok (), again) := by
  obtain ⟨_, collected⟩ := runOn_collect assigns
  obtain ⟨_, collected'⟩ := runOn_collect assigns'
  rw [collected] at done
  rw [collected', show other.providers = environment.providers from congrArg Prod.snd planned]
  exact (Effect.isSteady_forM isSteady_consult _).again done _

/-! ## Resolving again -/

/-- Paths that can each be made absolute are all made so. -/
theorem runOn_resolve {here : Place} {base : Path} {paths : List Setting} (nodup : paths.Nodup)
    (each : ∀ setting ∈ paths, ∃ path, absolutePath here base (environment.values setting) =
      .ok path) :
    ∃ left, (paths.forM (resolvePath here base)).runOn environment = (.ok (), left) := by
  induction paths generalizing environment with
  | nil => exact ⟨environment, rfl⟩
  | cons first rest inductionHypothesis =>
    obtain ⟨absent, nodup⟩ := List.nodup_cons.mp nodup
    obtain ⟨⟨path, made⟩, later⟩ := List.forall_mem_cons.mp each
    have resolved : (resolvePath here base first).runOn environment =
        (.ok (), environment.set first path) := by
      rw [resolvePath, Effect.runOn_get_bind, Effect.runOn_lift_bind, made]
      rfl
    have others : ∀ setting ∈ rest, ∃ made,
        absolutePath here base ((environment.set first path).values setting) = .ok made := by
      intro setting member
      have apart : setting ≠ first := fun same => absent (same ▸ member)
      simpa only [set, if_neg apart] using later setting member
    obtain ⟨left, done⟩ := inductionHypothesis nodup others
    refine ⟨left, ?_⟩
    rw [List.forM, Effect.runOn_bind, resolved]
    exact done

theorem kept_resolve {here : Place} {base : Path} {paths : List Setting}
    (resolved : (paths.forM (resolvePath here base)).runOn environment = (.ok (), left)) :
    left.record = environment.record ∧ left.plan = environment.plan :=
  ⟨kept_forM record (fun _ _ _ resolved => (kept_resolvePath resolved).1) resolved,
    kept_forM plan (fun _ _ _ resolved => (kept_resolvePath resolved).2) resolved⟩

/-! ## Loading again -/

/-- Where relative paths start. -/
def start (environment : Environment) (surroundings : Surroundings) : Path :=
  environment.base.getD ⟨"/", surroundings.files.here⟩

/-- Makes the path settings absolute. -/
def resolveAll (environment : Environment) (surroundings : Surroundings) : Effect Environment Unit :=
  (Setting.all.filter Setting.isPath).forM
    (resolvePath surroundings.files.here (environment.start surroundings))

theorem mem_paths_iff (setting : Setting) :
    setting ∈ Setting.all.filter Setting.isPath ↔ setting.isPath = true := by
  cases setting <;> decide

/-- Each path setting is made absolute, and all else is the same. -/
theorem resolveAll_ok {collected : Environment}
    (resolved : (environment.resolveAll surroundings).runOn collected = (.ok (), left))
    (setting : Setting) : if setting.isPath then
      absolutePath surroundings.files.here (environment.start surroundings)
        (collected.values setting) = .ok (left.values setting)
    else left.values setting = collected.values setting := by
  have made := resolve_ok (by decide) resolved setting
  simpa only [mem_paths_iff] using made

theorem runOn_resolveAll {collected : Environment} {values : Setting → Value}
    (each : ∀ setting : Setting, if setting.isPath then
        absolutePath surroundings.files.here (environment.start surroundings)
          (collected.values setting) = .ok (values setting)
      else values setting = collected.values setting) :
    ∃ left, (environment.resolveAll surroundings).runOn collected = (.ok (), left) ∧
      left.values = values := by
  have paths : ∀ setting ∈ Setting.all.filter Setting.isPath, ∃ path,
      absolutePath surroundings.files.here (environment.start surroundings)
        (collected.values setting) = .ok path := by
    intro setting member
    have made := each setting
    rw [if_pos ((mem_paths_iff setting).mp member)] at made
    exact ⟨_, made⟩
  obtain ⟨left, resolved⟩ := runOn_resolve (by decide) paths
  refine ⟨left, resolved, funext fun setting => ?_⟩
  have told := each setting
  have made := resolveAll_ok resolved setting
  split at made
  · rename_i path
    rw [if_pos path, made] at told
    exact Except.ok.inj told
  · rename_i other
    rw [if_neg other] at told
    exact made.trans told.symm

/-- What is collected completely is made absolute from where relative paths start. -/
theorem runOn_load {collected : Environment}
    (first : (collect surroundings).runOn environment = (.ok (), collected)) :
    (load surroundings).runOn environment =
      (environment.resolveAll surroundings).runOn collected := by
  obtain ⟨-, -, planned, -⟩ := collect_ok first
  rw [load_eq, Effect.runOn_bind, first]
  dsimp only
  rw [Effect.runOn_get_bind, show collected.base = environment.base from
    congrArg Prod.fst planned]
  rfl

theorem load_ok (done : (load surroundings).runOn environment = (.ok (), left)) :
    ∃ collected, (collect surroundings).runOn environment = (.ok (), collected) ∧
      (environment.resolveAll surroundings).runOn collected = (.ok (), left) := by
  have collects := done
  rw [load_eq] at collects
  obtain ⟨_, collected, first, -⟩ := Effect.bind_ok collects
  exact ⟨collected, first, (runOn_load first).symm.trans done⟩

/-- Loading leaves the plan and the place of the file, and keeps the variables that were found. -/
theorem kept_load {bindings : List (String × String)}
    (assigns : environment.assigned surroundings = .ok bindings)
    (done : (load surroundings).runOn environment = (.ok (), left)) :
    left.plan = environment.plan ∧ left.record = (environment.file,
      Variables.insertAll (bindings ++ known surroundings) environment.bindings) := by
  obtain ⟨collected, first, resolved⟩ := load_ok done
  obtain ⟨-, -, planned, -⟩ := collect_ok first
  obtain ⟨recorded, kept⟩ := kept_resolve resolved
  exact ⟨kept.trans planned, recorded.trans (record_collect assigns first)⟩

theorem isPlain_start (places : ∀ name ∈ surroundings.files.here, IsFileName name)
    (plain : ∀ base ∈ environment.base, base.IsPlain) :
    (environment.start surroundings).IsPlain := by
  rw [start]
  cases based : environment.base with
  | none => exact ⟨.inr (.inl rfl), fun name member => (places name member).isPlainName⟩
  | some base => exact plain base based

/-- What is collected from a loaded environment is what was loaded, the paths perhaps as they were
given: what is given is given again, and what is not given is what was loaded. -/
theorem collected_again {collected again : Environment}
    (first : (collect surroundings).runOn environment = (.ok (), collected))
    (second : (collect surroundings).runOn left = (.ok (), again))
    (same : left.assigned surroundings = environment.assigned surroundings)
    (planned : left.plan = environment.plan) (setting : Setting) :
    again.values setting = left.values setting ∨
      again.values setting = collected.values setting := by
  obtain ⟨bindings, assigns, -, given⟩ := collect_ok first
  obtain ⟨bindings', assigns', -, given'⟩ := collect_ok second
  obtain rfl : bindings' = bindings := Except.ok.inj (assigns'.symm.trans (same.trans assigns))
  rw [given, given', show left.providers = environment.providers from congrArg Prod.snd planned]
  rcases ((lastGiven setting.ofProvider? environment.providers).or
    (lastGiven setting.ofBinding? surroundings.bindings)).or
      (lastGiven setting.ofBinding? bindings') with _ | v
  · exact .inl rfl
  · exact .inr rfl

/-- So the second pass makes of each setting what the first one made of it. -/
theorem resolved_again {collected again : Environment}
    (places : ∀ name ∈ surroundings.files.here, IsFileName name)
    (plain : ∀ base ∈ environment.base, base.IsPlain) (setting : Setting)
    (resolved : (environment.resolveAll surroundings).runOn collected = (.ok (), left))
    (came : again.values setting = left.values setting ∨
      again.values setting = collected.values setting) : if setting.isPath then
      absolutePath surroundings.files.here (environment.start surroundings)
        (again.values setting) = .ok (left.values setting)
    else left.values setting = again.values setting := by
  have made := resolveAll_ok resolved setting
  rcases came with loaded | given
  · rw [loaded]
    by_cases path : setting.isPath = true
    · rw [if_pos path] at made ⊢
      exact absolutePath_again places (isPlain_start places plain) made
    · rw [if_neg path]
  · rwa [given]

/-- A loading that completes leaves every path setting unset or absolute and without detours, and
it completes again from there with the same settings and the same variables in their order. -/
theorem load_settles (surroundings : Surroundings) (environment left : Environment)
    (places : ∀ name ∈ surroundings.files.here, IsFileName name)
    (plain : ∀ base ∈ environment.base, base.IsPlain)
    (done : (load surroundings).runOn environment = (.ok (), left)) :
    (∃ again, (load surroundings).runOn left = (.ok (), again) ∧
      again.values = left.values ∧ again.bindings = left.bindings) ∧
    ∀ setting : Setting, setting.isPath = true →
      left.values setting = .null ∨
        ∃ text, left.values setting = .str text ∧ Path.IsSettled text := by
  obtain ⟨collected, first, resolved⟩ := load_ok done
  obtain ⟨bindings, assigns, -, -⟩ := collect_ok first
  obtain ⟨planned, recorded⟩ := kept_load assigns done
  constructor
  · have same : left.assigned surroundings = environment.assigned surroundings :=
      assigned_of_file (congrArg Prod.fst recorded) surroundings
    obtain ⟨collected', second⟩ := collect_again assigns first (same.trans assigns) planned
    have starts : left.start surroundings = environment.start surroundings := by
      rw [start, start, show left.base = environment.base from congrArg Prod.fst planned]
    obtain ⟨again, resolved', values⟩ := @runOn_resolveAll surroundings left collected' left.values
      fun setting => starts ▸ resolved_again places plain setting resolved
        (collected_again first second same planned setting)
    refine ⟨again, (runOn_load second).trans resolved', values, ?_⟩
    have kept := (kept_resolve resolved').1.trans (record_collect (same.trans assigns) second)
    rw [show again.bindings = _ from congrArg Prod.snd kept,
      show left.bindings = _ from congrArg Prod.snd recorded, Variables.insertAll_insertAll]
  · intro setting path
    have made := resolveAll_ok resolved setting
    rw [if_pos path] at made
    rcases exists_straight places (isPlain_start places plain) made with
      null | ⟨names, told, straight⟩
    · exact .inl null
    · exact .inr ⟨_, told, Path.isSettled_straight straight⟩

namespace Sample

/-- A relative path leads up from the directory that relative paths start from, and another one is
given by a provider. -/
def yard : Surroundings where
  files := ⟨[(["work"], .directory), (["work", ".env"], .file
    "LOG_FILE=./logs/../a.log\nCOLOUR=red\nLOG_FILE=../b.log".toUTF8.toList)], ["work"]⟩
  home := ⟨"/", ["home"]⟩
  bindings := [("LOG_LEVEL", "ERROR"), ("PATH", "/bin")]

def loading : Environment :=
  create none (some (Path.ofText "data")) [.ok (.map [(.str "execution_store_path", .str "/")])]

end Sample

theorem load_settles_yard :
    ∃ left again, (load Sample.yard).runOn Sample.loading = (.ok (), left) ∧
      (left.values .logFile).isStr "/work/b.log" = true ∧
      left.bindings = [("LOG_FILE", "../b.log"), ("COLOUR", "red"), ("LOG_LEVEL", "ERROR")] ∧
      (load Sample.yard).runOn left = (.ok (), again) ∧ again.values = left.values ∧
      again.bindings = left.bindings := by
  have completes : ((load Sample.yard).runOn Sample.loading).1.isOk = true := by decide +kernel
  have file : (((load Sample.yard).runOn Sample.loading).2.values .logFile).isStr "/work/b.log" =
      true := by decide +kernel
  have kept : ((load Sample.yard).runOn Sample.loading).2.bindings =
      [("LOG_FILE", "../b.log"), ("COLOUR", "red"), ("LOG_LEVEL", "ERROR")] := by decide +kernel
  rcases loaded : (load Sample.yard).runOn Sample.loading with ⟨_ | ⟨⟨⟩⟩, left⟩
  · simp [loaded, Except.isOk, Except.toBool] at completes
  rw [loaded] at file kept
  have places : ∀ name ∈ Sample.yard.files.here, IsFileName name := by
    intro name member
    obtain rfl := List.mem_singleton.mp member
    exact ⟨by decide, by decide, by decide, by decide⟩
  have plain : ∀ base ∈ Sample.loading.base, base.IsPlain := by
    rintro _ ⟨⟩
    exact Path.isPlain_ofText "data"
  obtain ⟨⟨again, reloaded, values, bindings⟩, -⟩ :=
    load_settles Sample.yard Sample.loading left places plain loaded
  exact ⟨left, again, rfl, file, kept, reloaded, values, bindings⟩

end Environment

end Stepwise
