import Stepwise.Shipped.Demonstration

/-!
# The command line

Runs the demonstration and shows what it came to.
-/

namespace Stepwise

/-- When the demonstration takes place. -/
def demonstrationTime : Moment := ⟨⟨2024, 1, 1⟩, 0, 0, 0, 0, some 0⟩

end Stepwise

def main : IO Unit := do
  let shown := do
    let execution ← Stepwise.Demonstration.run true Stepwise.demonstrationTime
    Stepwise.Demonstration.transcript execution
  match shown with
  | .ok text => IO.print text
  | .error f => throw (IO.userError f.kind)
