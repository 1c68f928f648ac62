/-!
# Marks

Not-a-number and the objects of a host have no value by which they could be compared: two of them
are the same only when they are one. A mark says which one it is, by where it first came from.
-/

namespace Stepwise

/-- Where something first came from: the word for not-a-number in JSON or in YAML, which always
stands for the same one, a count kept by the host, or a node of a numbered text. -/
inductive Mark where
  | json
  | yaml
  | host (count : Nat)
  | node (text place : Nat)
  deriving DecidableEq, Repr, Inhabited

/-- The mark of the same node in a text that comes so many texts later. -/
def Mark.later (count : Nat) : Mark → Mark
  | .node text place => .node (text + count) place
  | mark => mark

end Stepwise
