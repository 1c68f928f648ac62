import Stepwise.Definition.Numbering
import Stepwise.Yaml.Document

/-!
# Definitions as YAML

A definition file holds one YAML document, which has to be a map.
-/

namespace Stepwise

namespace Workflow

/-- The workflow that a YAML text with a number describes. Every text is read as if it were the
first one, and the number tells what came of it from what came of other texts. -/
def ofYaml (number : Nat) (source : List Char) : Except Fault Workflow :=
  match Yaml.read source with
  | .error .malformed => refuse (.invalidDefinition .null ["Invalid YAML"])
  | .error (.fault met) => .error met
  | .ok document =>
    if document.isMap then (ofDocument document).map (later number)
    else refuse (.invalidDefinition .null ["YAML must contain a mapping"])

end Workflow

end Stepwise
