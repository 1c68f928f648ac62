import Stepwise.Engine.Basic
import Stepwise.Registry.Loading
import Stepwise.Settings.Environment
import Stepwise.Settings.Logging

/-!
# Services

A service is an engine set up from settings: its store is in memory or in a directory, and the
definitions of a directory are registered from the start.
-/

namespace Stepwise

namespace Settings

/-- The settings that nothing was set for. -/
def standard : Settings where
  definitionsDirectory := none
  storeBackend := .memory
  storePath := ".workflow_executions"
  stepTimeout := Binary64.ofInt 300
  persistTimeout := Binary64.ofInt 30
  retentionDays := 7
  listLimit := 10
  logLevel := .info
  logFile := none

/-- The options of the engine. -/
def options (settings : Settings) : Options where
  stepTimeout := .float settings.stepTimeout
  persistTimeout := .float settings.persistTimeout
  listLimit := .int settings.listLimit
  retentionDays := .int settings.retentionDays

/-- The store that settings ask for. -/
def store (settings : Settings) (files : Files) : Except Fault Store :=
  match settings.storeBackend with
  | .filesystem => Store.inFolder files (Path.ofText settings.storePath)
  | .memory => .ok (Store.create (.memory []) files)

end Settings

structure Service (η : Type) where
  settings : Settings
  engine : Engine η

namespace Service

variable {η : Type}

/-- The service of settings, on a disk. -/
def ofSettings (settings : Settings) (worksApart : η → Bool) (files : Files) (now : Moment) :
    Except Fault (Service η) := do
  let store ← settings.store files
  let engine := Engine.create store settings.options worksApart now
  match settings.definitionsDirectory with
  | none => return ⟨settings, engine⟩
  | some directory =>
    if directory = "" then return ⟨settings, engine⟩
    else
      let loading := Engine.onWorkflows
        (Workflows.loadDirectory store.files (Path.ofText directory))
      match loading.runOn engine with
      | (.ok _, engine) => return ⟨settings, engine⟩
      | (.error f, _) => throw f

/-- Why there is no service: the settings are not valid, or something went wrong. -/
inductive Refusal where
  | invalid (errors : List SettingError)
  | fault (f : Fault)

/-- The service of the settings that are collected from an environment. -/
def ofEnvironment (environment : Environment) (surroundings : Surroundings)
    (configureLogging : Bool) (worksApart : η → Bool) (now : Moment) :
    Except Refusal (Service η) :=
  match (Environment.load surroundings).runOn environment with
  | (.error f, _) => .error (.fault f)
  | (.ok (), environment) =>
    match environment.settings with
    | .error errors => .error (.invalid errors)
    | .ok settings =>
      let ready := do
        let files ←
          if configureLogging then (Logging.setUp settings surroundings.files).map Prod.snd
          else pure surroundings.files
        ofSettings settings worksApart files now
      ready.mapError .fault

end Service

end Stepwise
