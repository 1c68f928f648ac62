import Stepwise.Value.Basic

/-!
# Settings

What can be set of a service: where definitions and records are kept, the limits of the engine,
and how much is logged. Every setting has a name, a variable by which it is set from outside, and
a default.
-/

namespace Stepwise

inductive Setting where
  | definitionsDirectory
  | storeBackend
  | storePath
  | retentionDays
  | stepTimeout
  | persistTimeout
  | listLimit
  | logLevel
  | logFile
  deriving DecidableEq, Repr

/-- What a variable's text is read as. -/
inductive SettingKind where
  | text
  | whole
  | decimal
  deriving DecidableEq, Repr

namespace Setting

def all : List Setting :=
  [definitionsDirectory, storeBackend, storePath, retentionDays, stepTimeout, persistTimeout,
    listLimit, logLevel, logFile]

def name : Setting → String
  | definitionsDirectory => "workflow_definitions_dir"
  | storeBackend => "execution_store_backend"
  | storePath => "execution_store_path"
  | retentionDays => "execution_retention_days"
  | stepTimeout => "step_timeout_seconds"
  | persistTimeout => "persist_timeout_seconds"
  | listLimit => "default_list_limit"
  | logLevel => "log_level"
  | logFile => "log_file"

/-- The variable that sets a setting. -/
def variableName : Setting → String
  | definitionsDirectory => "WORKFLOW_DEFINITIONS_DIR"
  | storeBackend => "EXECUTION_STORE_BACKEND"
  | storePath => "EXECUTION_STORE_PATH"
  | retentionDays => "EXECUTION_RETENTION_DAYS"
  | stepTimeout => "STEP_TIMEOUT_SECONDS"
  | persistTimeout => "PERSIST_TIMEOUT_SECONDS"
  | listLimit => "DEFAULT_LIST_LIMIT"
  | logLevel => "LOG_LEVEL"
  | logFile => "LOG_FILE"

def default : Setting → Value
  | definitionsDirectory => .null
  | storeBackend => .str "memory"
  | storePath => .str ".workflow_executions"
  | retentionDays => .int 7
  | stepTimeout => .float (Binary64.ofInt 300)
  | persistTimeout => .float (Binary64.ofInt 30)
  | listLimit => .int 10
  | logLevel => .str "INFO"
  | logFile => .null

def kind : Setting → SettingKind
  | retentionDays => .whole
  | stepTimeout => .decimal
  | persistTimeout => .decimal
  | listLimit => .whole
  | _ => .text

/-- Settings that are paths. -/
def isPath : Setting → Bool
  | definitionsDirectory => true
  | storePath => true
  | logFile => true
  | _ => false

def named? (name : String) : Option Setting := all.find? fun setting => setting.name = name

def ofVariable? (name : String) : Option Setting :=
  all.find? fun setting => setting.variableName = name

end Setting

/-- Where records are kept. -/
inductive StoreKind where
  | memory
  | filesystem
  deriving DecidableEq, Repr, Inhabited

def StoreKind.name : StoreKind → String
  | memory => "memory"
  | filesystem => "filesystem"

def StoreKind.all : List StoreKind := [memory, filesystem]

/-- How much a message matters. -/
inductive LogLevel where
  | debug
  | info
  | warning
  | error
  | critical
  deriving DecidableEq, Repr, Inhabited

namespace LogLevel

def all : List LogLevel := [debug, info, warning, error, critical]

def name : LogLevel → String
  | debug => "DEBUG"
  | info => "INFO"
  | warning => "WARNING"
  | error => "ERROR"
  | critical => "CRITICAL"

/-- The rank of a level; messages below a threshold's rank are left out. -/
def rank : LogLevel → Nat
  | debug => 10
  | info => 20
  | warning => 30
  | error => 40
  | critical => 50

end LogLevel

/-- Valid settings. -/
structure Settings where
  definitionsDirectory : Option String
  storeBackend : StoreKind
  storePath : String
  stepTimeout : Binary64
  persistTimeout : Binary64
  retentionDays : Int
  listLimit : Int
  logLevel : LogLevel
  logFile : Option String
  deriving Inhabited

/-- The value of every setting. -/
def Settings.value (settings : Settings) : Setting → Value
  | .definitionsDirectory => Value.ofOption (settings.definitionsDirectory.map Value.str)
  | .storeBackend => .str settings.storeBackend.name
  | .storePath => .str settings.storePath
  | .retentionDays => .int settings.retentionDays
  | .stepTimeout => .float settings.stepTimeout
  | .persistTimeout => .float settings.persistTimeout
  | .listLimit => .int settings.listLimit
  | .logLevel => .str settings.logLevel.name
  | .logFile => Value.ofOption (settings.logFile.map Value.str)

end Stepwise
