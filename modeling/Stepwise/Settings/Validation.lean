import Stepwise.Settings.Basic
import Stepwise.Settings.Reading

/-!
# Validation of settings

Settings are valid together: every setting that is not accepted is reported, in a fixed order.
Settings that are not given have their defaults; other names are passed over.
-/

namespace Stepwise

/-- A setting with the reason why its value is not accepted. -/
structure SettingError where
  setting : Setting
  rejection : Rejection
  deriving Repr

namespace Settings

/-- A number above zero. -/
def positiveNumber (v : Value) : Except Rejection Binary64 := do
  let x ← Reading.number v
  if (Binary64.zero false).less x then return x else throw (.notAbove 0)

def positiveWhole (v : Value) : Except Rejection Int := do
  let n ← Reading.whole v
  if 0 < n then return n else throw (.notAbove 0)

def naturalWhole (v : Value) : Except Rejection Int := do
  let n ← Reading.whole v
  if 0 ≤ n then return n else throw (.notAtLeast 0)

def backend (v : Value) : Except Rejection StoreKind :=
  Reading.among Setting.storeBackend.name Reading.small StoreKind.all StoreKind.name v

def level (v : Value) : Except Rejection LogLevel :=
  Reading.among Setting.logLevel.name Reading.capital LogLevel.all LogLevel.name v

/-- The error of a reading, if it failed. -/
def errorOf {α : Type} (setting : Setting) : Except Rejection α → List SettingError
  | .ok _ => []
  | .error rejection => [⟨setting, rejection⟩]

/-- The settings with the given values, or all that is wrong with them. -/
def ofValues (value : Setting → Value) : Except (List SettingError) Settings :=
  let definitionsDirectory := Reading.optional Reading.text (value .definitionsDirectory)
  let storeBackend := backend (value .storeBackend)
  let storePath := Reading.text (value .storePath)
  let stepTimeout := positiveNumber (value .stepTimeout)
  let persistTimeout := positiveNumber (value .persistTimeout)
  let retentionDays := naturalWhole (value .retentionDays)
  let listLimit := positiveWhole (value .listLimit)
  let logLevel := level (value .logLevel)
  let logFile := Reading.optional Reading.text (value .logFile)
  match definitionsDirectory, storeBackend, storePath, stepTimeout, persistTimeout, retentionDays,
    listLimit, logLevel, logFile with
  | .ok definitionsDirectory, .ok storeBackend, .ok storePath, .ok stepTimeout, .ok persistTimeout,
    .ok retentionDays, .ok listLimit, .ok logLevel, .ok logFile =>
    .ok { definitionsDirectory, storeBackend, storePath, stepTimeout, persistTimeout,
          retentionDays, listLimit, logLevel, logFile }
  | _, _, _, _, _, _, _, _, _ =>
    .error (errorOf .definitionsDirectory definitionsDirectory ++
      errorOf .storeBackend storeBackend ++ errorOf .storePath storePath ++
      errorOf .stepTimeout stepTimeout ++ errorOf .persistTimeout persistTimeout ++
      errorOf .retentionDays retentionDays ++ errorOf .listLimit listLimit ++
      errorOf .logLevel logLevel ++ errorOf .logFile logFile)

/-- The value that a list of named values gives a setting, of several the last, and otherwise the
default. -/
def given (values : List (String × Value)) (setting : Setting) : Value :=
  match values.reverse.lookup setting.name with
  | some v => v
  | none => setting.default

/-- The settings of a list of named values. -/
def ofNamed (values : List (String × Value)) : Except (List SettingError) Settings :=
  ofValues (given values)

end Settings

end Stepwise
