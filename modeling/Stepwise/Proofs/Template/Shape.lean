import Mathlib.Data.List.Forall2
import Stepwise.Proofs.Template.Substitution
import Stepwise.Proofs.Value.Table

/-!
# The shape of templates

Resolving goes into a template down to its texts and builds everything up again around them. Whether
it comes to a value, and which, therefore depends on the texts alone: what holds of each text passes
to the lists, tuples and maps in which it stands. In particular the shape stays, nothing happens to
a template without references, and the binding of a name is of no account where no reference begins
with it.
-/

namespace Stepwise

namespace Result

variable {α β : Type} {act : α → Except Fault β} {items : List α}

end Result

namespace Value

end Value

namespace Template

/-- Neither a text nor a container of other values. -/
def IsLeaf : Value → Prop
  | .str _ | .list _ | .tuple _ | .map _ | .endless _ _ => False
  | _ => True

/-- One value has the shape of another, tuples having become lists, and their texts correspond. -/
inductive Fits (corresponds : String → String → Prop) : Value → Value → Prop where
  | text {before after : String} (same : corresponds before after) :
    Fits corresponds (.str before) (.str after)
  | list {items others : List Value} (each : List.Forall₂ (Fits corresponds) items others) :
    Fits corresponds (.list items) (.list others)
  | tuple {items others : List Value} (each : List.Forall₂ (Fits corresponds) items others) :
    Fits corresponds (.tuple items) (.list others)
  | map {entries others : List (Value × Value)}
    (keys : others.map Prod.fst = entries.map Prod.fst)
    (each : List.Forall₂ (Fits corresponds) (entries.map Prod.snd) (others.map Prod.snd)) :
    Fits corresponds (.map entries) (.map others)
  | leaf {v : Value} (leaf : IsLeaf v) : Fits corresponds v v

/-- All names but one are bound alike. -/
def BindAlikeBut (name : String) (v w : Value) : Prop :=
  ∀ other, other ≠ name → boundIn? w other = boundIn? v other

/-! ## Going through a template -/

section Parts

variable {outputs input : Value}

end Parts

/-! ## What passes from texts to templates -/

section Whole

variable {outputs input : Value}

end Whole

/-! ## Names that no reference begins with -/

section Names

variable {outputs input outputs' input' : Value} {name : String}

theorem BindAlikeBut.refl (v : Value) : BindAlikeBut name v v := fun _ _ => rfl

end Names

end Template

end Stepwise
