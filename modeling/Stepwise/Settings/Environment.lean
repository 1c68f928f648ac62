import Stepwise.Disk.Files
import Stepwise.Effect
import Stepwise.Settings.Validation

/-!
# Settings from the environment

Settings are collected from a file of variables, then from the variables of the process, then
from providers; what comes later counts. Paths are made absolute at the end. Variables that set
nothing are kept, and values that cannot be converted are noted and passed over.
-/

namespace Stepwise

/-- A note on something that was passed over. -/
structure Note where
  level : LogLevel
  message : String
  deriving Repr

/-- What a provider gives: settings by name, or a fault. -/
abbrev Provider := Except Fault Value

/-- The world that settings are collected from: the disk, the home directory and the variables of
the process in their order. -/
structure Surroundings where
  files : Files
  home : Path
  bindings : List (String × String)

/-- `file` is the file of variables to read instead of the usual ones, and `base` is where
relative paths start instead of the current directory. `bindings` are the variables read so far, and
`values` the settings so far, which may be anything until they are validated. -/
structure Environment where
  file : Option Path
  base : Option Path
  providers : List Provider
  bindings : List (String × String)
  values : Setting → Value
  notes : List Note

/-! ## Files of variables -/

namespace Variables

/-- The lines of a text; a line end at the end of the text ends its last line. -/
def lines (text : List Char) : List (List Char) :=
  let parts := Text.splitAt '\n' text
  if parts.getLast? = some [] then parts.dropLast else parts

/-- Takes one pair of equal quotes off a value. -/
def unquoted (value : List Char) : List Char :=
  let isQuoted (mark : Char) := value.head? = some mark && value.getLast? = some mark
  if isQuoted '"' || isQuoted '\'' then value.tail.dropLast else value

/-- The variable that a line sets. Blank lines, comments and lines without a sign of equality set
none; blanks around the name and the value do not count, unless the value is quoted. -/
def ofLine? (line : List Char) : Option (String × String) :=
  let line := trim line
  if line.head? = some '#' || !line.contains '=' then none
  else
    let name := line.takeWhile (· ≠ '=')
    let value := line.drop (name.length + 1)
    some (String.ofList (trim name), String.ofList (unquoted (trim value)))

/-- The variables that a text sets, in order. -/
def ofText (text : List Char) : List (String × String) := (lines text).filterMap ofLine?

/-- Sets a variable. One that is set already keeps its place. -/
def insert (name value : String) : List (String × String) → List (String × String)
  | [] => [(name, value)]
  | (other, old) :: rest =>
    if other = name then (name, value) :: rest else (other, old) :: insert name value rest

end Variables

/-- The name of what a variable's text is read as. -/
def SettingKind.name : SettingKind → String
  | .text => "str"
  | .whole => "int"
  | .decimal => "float"

/-- Reads the text of a variable. -/
def SettingKind.read? (kind : SettingKind) (source : String) : Option Value :=
  match kind with
  | .text => some (.str source)
  | .whole => (Numeral.readInt? source.toList).map Value.int
  | .decimal => (Numeral.readBinary64? source.toList).map Value.float

/-! ## Paths -/

/-- The text of a path from the root, every name that leads up being taken back. -/
def Path.resolved (here : Place) (path : Path) : String :=
  let names := if path.isAbsolute then path.names else here ++ path.names
  Path.text ⟨"/", names.foldl
    (fun names name => if name = ".." then names.dropLast else names ++ [name]) []⟩

/-- A path setting made absolute. -/
def absolutePath (here : Place) (base : Path) (v : Value) : Except Fault Value :=
  match v with
  | .null => .ok .null
  | .str s =>
    let path := base.join s
    if path.names.any fun name => name.toList.contains '\x00' then
      .error (.valueError "embedded null byte")
    else .ok (.str (path.resolved here))
  | other =>
    .error (.typeError
      s!"expected str, bytes or os.PathLike object, not {other.kind}")

namespace Environment

/-- An environment with the defaults. -/
def create (file base : Option Path) (providers : List Provider) : Environment :=
  ⟨file, base, providers, [], Setting.default, []⟩

def set (setting : Setting) (v : Value) (environment : Environment) : Environment :=
  { environment with
    values := fun other => if other = setting then v else environment.values other }

def note (level : LogLevel) (message : String) (environment : Environment) : Environment :=
  { environment with notes := environment.notes ++ [⟨level, message⟩] }

/-- Keeps a variable and sets what it sets. -/
def apply (source name value : String) (environment : Environment) : Environment :=
  let environment :=
    { environment with bindings := Variables.insert name value environment.bindings }
  match Setting.ofVariable? name with
  | none => environment
  | some setting =>
    match setting.kind.read? value with
    | some v => environment.set setting v
    | none =>
      environment.note .warning
        s!"Ignoring {name}={quoted value} from {source}: expected {setting.kind.name}"

/-- The files of variables to look for. -/
def candidates (environment : Environment) (surroundings : Surroundings) : List Path :=
  match environment.file with
  | some file => [file]
  | none => [⟨"/", surroundings.files.here ++ [".env"]⟩, surroundings.home.join ".env"]

/-- The first of some paths at which there is a file. -/
def firstFile (files : Files) : List Path → Except Fault (Option Path)
  | [] => .ok none
  | path :: rest => do
    if ← files.isFile path then return some path else firstFile files rest

/-- Reads the first file of variables there is. -/
def loadFile (surroundings : Surroundings) : Effect Environment Unit := do
  let environment ← get
  match ← lift (firstFile surroundings.files (environment.candidates surroundings)) with
  | none => return
  | some path =>
    let text ← lift (surroundings.files.readText path)
    modify fun environment =>
      (Variables.ofText text).foldl
        (fun environment (name, value) => environment.apply path.text name value) environment

/-- Reads the variables of the process that set something. -/
def loadVariables (surroundings : Surroundings) (environment : Environment) : Environment :=
  surroundings.bindings.foldl
    (fun environment (name, value) =>
      if (Setting.ofVariable? name).isSome then environment.apply "environment" name value
      else environment)
    environment

/-- Takes one setting of a provider. -/
def takeEntry (name v : Value) : Effect Environment Unit := do
  let setting :=
    match name with
    | .str s => Setting.named? s
    | _ => none
  match setting with
  | some setting => modify (Environment.set setting v)
  | none =>
    let name ← lift name.text
    modify (note .warning s!"Provider returned unknown setting '{name}'")

/-- Takes the settings of a provider. -/
def consult (provider : Provider) : Effect Environment Unit := do
  match provider with
  | .error f =>
    let reason ← lift f.text
    modify (note .error s!"Error from settings provider: {reason}")
  | .ok v =>
    if v.truthy then
      match v with
      | .map entries => entries.forM fun (name, content) => takeEntry name content
      | other => throw (other.unanswered "items")

/-- Makes the path settings absolute, one after the other. -/
def resolvePaths (here : Place) (base : Path) : Effect Environment Unit :=
  (Setting.all.filter Setting.isPath).forM fun setting => do
    let path ← lift (absolutePath here base ((← get).values setting))
    modify (Environment.set setting path)

/-- Collects the settings. A fault on the way leaves what was collected before. -/
def load (surroundings : Surroundings) : Effect Environment Unit := do
  loadFile surroundings
  modify (loadVariables surroundings)
  for provider in (← get).providers do consult provider
  let here := surroundings.files.here
  resolvePaths here ((← get).base.getD ⟨"/", here⟩)

/-- Sets a setting by name. -/
def setNamed (name : String) (v : Value) : Effect Environment Unit :=
  match Setting.named? name with
  | some setting => modify (Environment.set setting v)
  | none => throw (.keyError (.str s!"Unknown setting '{name}'"))

/-- The value of a setting by name, or a default when there is no such setting. -/
def getNamed (name : String) (fallback : Value) (environment : Environment) : Value :=
  match Setting.named? name with
  | some setting => environment.values setting
  | none => fallback

/-- The settings, if they are valid. -/
def settings (environment : Environment) : Except (List SettingError) Settings :=
  Settings.ofValues environment.values

end Environment

end Stepwise
