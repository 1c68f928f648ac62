import Mathlib.Data.List.Induction
import Stepwise.Proofs.Effect
import Stepwise.Proofs.Registry.Roster
import Stepwise.Registry.Capabilities

/-!
# The history of capabilities

What agents can do is told from the calls that were made about it. A call comes to deeds, one after
the other: it gives an agent a handler for an action, it takes one action back, or it dismisses the
agent. A call that is refused half way has done what stood before the handler that cannot be called.
The handler for an action of an agent is then the one that the last deed about the two left, and an
agent is there exactly as long as it has a handler for some action. Agents are listed in the order
in which they came, and so are the actions of each.

All names are texts. The proof follows the deeds: each keeps the two levels of tables in step with
what is told of them, and no agent is left without an action.
-/

namespace Stepwise

namespace Capabilities

variable {η : Type}

/-! ## Calls and deeds -/

/-- A call that changes what agents can do. What cannot be called is given as no handler, and
without an action an agent is dismissed. -/
inductive Call (η : Type) where
  | register (agent action : String) (handler : Option η)
  | registerAll (agent : String) (handlers : List (String × Option η))
  | unregister (agent : String) (action : Option String)

/-- What a call does, step by step. -/
inductive Deed (η : Type) where
  | gives (agent action : String) (handler : η)
  | takes (agent action : String)
  | dismisses (agent : String)

/-- The deeds of giving an agent several handlers, up to the first that cannot be called. -/
def given (agent : String) : List (String × Option η) → List (Deed η)
  | (action, some handler) :: rest => .gives agent action handler :: given agent rest
  | _ => []

namespace Call

def make : Call η → Effect (Capabilities η) Unit
  | register agent action handler => Capabilities.register (.str agent) (.str action) handler
  | registerAll agent handlers =>
    Capabilities.registerAll (.str agent) (handlers.map fun entry => (.str entry.1, entry.2))
  | unregister agent action =>
    Capabilities.unregister (.str agent) (Value.ofOption (action.map .str))

def deeds : Call η → List (Deed η)
  | register agent action handler => given agent [(action, handler)]
  | registerAll agent handlers => given agent handlers
  | unregister agent (some action) => [.takes agent action]
  | unregister agent none => [.dismisses agent]

end Call

/-- The capabilities after calls, whether they returned or raised. -/
def after (capabilities : Capabilities η) (calls : List (Call η)) : Capabilities η :=
  calls.foldl (fun found call => (call.make.runOn found).2) capabilities

namespace Deed

/-- The agent that a deed is about. -/
def agent : Deed η → String
  | gives agent _ _ | takes agent _ | dismisses agent => agent

/-- The deed is about an action of an agent. -/
def concerns (agent action : String) : Deed η → Bool
  | gives other act _ | takes other act => other = agent && act = action
  | dismisses other => other = agent

/-- The handler that a deed leaves. -/
def handler? : Deed η → Option η
  | gives _ _ handler => some handler
  | takes _ _ | dismisses _ => none

/-- The action that a deed names. -/
def action? : Deed η → Option String
  | gives _ action _ | takes _ action => some action
  | dismisses _ => none

/-- The handler that an agent has for an action after deeds: the last deed about them decides. -/
def held (deeds : List (Deed η)) (agent action : String) : Option η :=
  (deeds.reverse.find? (concerns agent action)).bind handler?

/-- An agent has a handler for an action. -/
def has (agent action : String) (deeds : List (Deed η)) : Bool := (held deeds agent action).isSome

/-- An agent has a handler for some action. -/
def isStaffed (agent : String) (deeds : List (Deed η)) : Bool :=
  (deeds.filterMap action?).any fun action => has agent action deeds

variable {deeds : List (Deed η)} {agent action : String}

theorem held_concat (deeds : List (Deed η)) (deed : Deed η) (agent action : String) :
    held (deeds ++ [deed]) agent action =
      if deed.concerns agent action then deed.handler? else held deeds agent action := by
  rw [held, List.reverse_append, List.reverse_singleton, List.singleton_append, List.find?_cons]
  cases deed.concerns agent action <;> rfl

theorem held_of_ne {deed : Deed η} {agent : String} (other : deed.agent ≠ agent)
    (deeds : List (Deed η)) (action : String) :
    held (deeds ++ [deed]) agent action = held deeds agent action := by
  have elsewhere : deed.concerns agent action = false := by
    cases deed <;> simp_all [concerns, Deed.agent]
  rw [held_concat, elsewhere, if_neg Bool.false_ne_true]

/-- A handler that an agent has was given by one of the deeds. -/
theorem action_of_held {handler : η} (known : held deeds agent action = some handler) :
    action ∈ deeds.filterMap action? := by
  obtain ⟨deed, found, left⟩ := Option.bind_eq_some_iff.mp known
  have about := List.find?_some found
  refine List.mem_filterMap.mpr ⟨deed, List.mem_reverse.mp (List.mem_of_find?_eq_some found), ?_⟩
  cases deed with
  | gives other act given =>
    obtain ⟨-, rfl⟩ : other = agent ∧ act = action := by simpa [concerns] using about
    rfl
  | takes other act => cases left
  | dismisses other => cases left

theorem isStaffed_iff : isStaffed agent deeds = true ↔ ∃ action, has agent action deeds = true := by
  rw [isStaffed, List.any_eq_true]
  refine ⟨fun ⟨action, _, known⟩ => ⟨action, known⟩, fun ⟨action, known⟩ => ⟨action, ?_, known⟩⟩
  obtain ⟨handler, known⟩ := Option.isSome_iff_exists.mp known
  exact action_of_held known

end Deed

/-! ## What deeds do to the tables -/

/-- The handlers of an agent by action, none of an agent that is not there. -/
def actionsOf (capabilities : Capabilities η) (agent : String) : Table η :=
  (capabilities.find? (.str agent)).getD []

namespace Deed

/-- The handlers that a deed leaves to the agent that it is about. -/
def left (actions : Table η) : Deed η → Table η
  | gives _ action handler => actions.insert (.str action) handler
  | takes _ action => actions.erase (.str action)
  | dismisses _ => []

/-- The capabilities after a deed. An agent is forgotten when no handler is left to it. -/
def done (capabilities : Capabilities η) (deed : Deed η) : Capabilities η :=
  let left := deed.left (actionsOf capabilities deed.agent)
  if left.isEmpty then Table.erase (.str deed.agent) capabilities
  else Table.insert (.str deed.agent) left capabilities

end Deed

/-- A table without a text. -/
theorem without_str {α : Type} (name : String) (table : Table α) :
    without (.str name) table = .ok (table.erase (.str name)) := by
  cases table <;> rfl

theorem runOn_register (agent action : String) (handler : η) (capabilities : Capabilities η) :
    (register (.str agent) (.str action) (some handler)).runOn capabilities =
      (.ok (), Deed.done capabilities (.gives agent action handler)) := by
  have named (name : String) : (Value.str name).hashable = .ok () := rfl
  have told (name : String) : (Value.str name).text = .ok name := rfl
  rw [Deed.done, Deed.left, Table.isEmpty_insert, Deed.agent]
  simp only [register, named, told, Effect.runOn_lift_bind, Effect.runOn_get_bind,
    Effect.runOn_modify_bind, Table.insert_insert (Value.same_str_self agent)]
  rfl

/-- What cannot be called is refused, and nothing is registered. -/
theorem runOn_register_none (agent action : String) (capabilities : Capabilities η) :
    (register (.str agent) (.str action) none).runOn capabilities =
      (.error (.typeError s!"Handler for {agent}.{action} is not callable"), capabilities) :=
  rfl

/-- Several handlers are given one after the other, up to the first that cannot be called. -/
theorem registerAll_left (agent : String) (handlers : List (String × Option η))
    (capabilities : Capabilities η) :
    ((registerAll (.str agent) (handlers.map fun entry => (.str entry.1, entry.2))).runOn
      capabilities).2 = (given agent handlers).foldl Deed.done capabilities := by
  induction handlers generalizing capabilities with
  | nil => rfl
  | cons entry rest inductionHypothesis =>
    obtain ⟨action, handler⟩ := entry
    rw [List.map_cons, registerAll, Effect.runOn_bind]
    cases handler with
    | none => rfl
    | some handler =>
      rw [runOn_register, given, List.foldl_cons]
      exact inductionHypothesis _

theorem runOn_dismiss (agent : String) (capabilities : Capabilities η) :
    (unregister (.str agent) .null).runOn capabilities =
      (.ok (), Deed.done capabilities (.dismisses agent)) := by
  have whole : Value.null.isNull = true := rfl
  rw [unregister, Effect.runOn_get_bind, if_pos whole, without_str]
  rfl

theorem runOn_take (agent action : String) (capabilities : Capabilities η) :
    (unregister (.str agent) (.str action)).runOn capabilities =
      (.ok (), Deed.done capabilities (.takes agent action)) := by
  have named : (Value.str agent).hashable = .ok () := rfl
  have single : ¬ (Value.str action).isNull = true := nofun
  rw [unregister, Effect.runOn_get_bind, if_neg single, Effect.runOn_lift_bind, named,
    Deed.done, Deed.left, Deed.agent, actionsOf]
  dsimp only
  cases known : capabilities.find? (.str agent) with
  | none =>
    have absent := Table.erase_of_absent (Table.find?_eq_none_iff.mp known)
    rw [Option.getD_none, Table.erase, List.isEmpty_nil, if_pos rfl, absent, Effect.runOn_pure]
  | some actions =>
    dsimp only
    rw [without_str, Effect.runOn_lift_bind]
    rfl

/-- A call does its deeds, whether it returns or raises. -/
theorem make_left (call : Call η) (capabilities : Capabilities η) :
    (call.make.runOn capabilities).2 = call.deeds.foldl Deed.done capabilities := by
  cases call with
  | register agent action handler =>
    cases handler with
    | none => exact congrArg Prod.snd (runOn_register_none agent action capabilities)
    | some handler => exact congrArg Prod.snd (runOn_register agent action handler capabilities)
  | registerAll agent handlers => exact registerAll_left agent handlers capabilities
  | unregister agent action =>
    cases action with
    | none =>
      exact congrArg Prod.snd (runOn_dismiss agent capabilities)
    | some action => exact congrArg Prod.snd (runOn_take agent action capabilities)

theorem after_eq (calls : List (Call η)) (capabilities : Capabilities η) :
    after capabilities calls = (calls.flatMap Call.deeds).foldl Deed.done capabilities := by
  induction calls generalizing capabilities with
  | nil => rfl
  | cons call rest inductionHypothesis =>
    rw [after, List.foldl_cons, ← after, inductionHypothesis, make_left, List.flatMap_cons,
      List.foldl_append]

/-! ## What the tables hold -/

open Roster

variable {capabilities : Capabilities η} {deeds : List (Deed η)}

/-- The tables hold what deeds left: the agents that have a handler for some action, with their
actions, and the handlers. -/
structure Holds (capabilities : Capabilities η) (deeds : List (Deed η)) : Prop where
  agents : Stands Deed.isStaffed deeds capabilities
  actions : ∀ agent, Stands (Deed.has agent) deeds (actionsOf capabilities agent)
  found : ∀ agent action,
    (actionsOf capabilities agent).find? (.str action) = Deed.held deeds agent action

namespace Holds

theorem nil : Holds ([] : Capabilities η) [] where
  agents := .nil fun _ => rfl
  actions _ := .nil fun _ => rfl
  found _ _ := rfl

/-- The handlers that a deed leaves to its agent are those that are told of it. -/
theorem left (holds : capabilities.Holds deeds) (deed : Deed η) :
    Stands (Deed.has deed.agent) (deeds ++ [deed]) (deed.left (actionsOf capabilities deed.agent)) ∧
      ∀ action, (deed.left (actionsOf capabilities deed.agent)).find? (.str action) =
        Deed.held (deeds ++ [deed]) deed.agent action := by
  have stands := holds.actions deed.agent
  have sound := stands.areKeys
  cases deed with
  | gives agent action handler =>
    refine ⟨stands.insert (fun _ => rfl) handler fun other => ?_, fun other => ?_⟩
    · rw [Deed.has, Deed.held_concat]
      by_cases same : other = action
      · simp [Deed.concerns, Deed.agent, Deed.handler?, same]
      · simp [Deed.concerns, Deed.agent, Deed.has, same, Ne.symm same]
    · rw [Deed.left, Table.find?_insert sound (Value.isKey_str action), Deed.agent, holds.found,
        Deed.held_concat]
      simp [Deed.concerns, Deed.handler?]
  | takes agent action =>
    refine ⟨stands.erase (fun _ => rfl) fun other => ?_, fun other => ?_⟩
    · rw [Deed.has, Deed.held_concat]
      by_cases same : other = action
      · simp [Deed.concerns, Deed.agent, Deed.handler?, same]
      · simp [Deed.concerns, Deed.agent, Deed.has, same, Ne.symm same]
    · rw [Deed.left, Table.find?_erase sound (Value.isKey_str action), Deed.agent, holds.found,
        Deed.held_concat]
      simp [Deed.concerns, Deed.handler?]
  | dismisses agent =>
    have gone (action : String) :
        Deed.held (deeds ++ [.dismisses agent]) agent action = none := by
      rw [Deed.held_concat]
      simp [Deed.concerns, Deed.handler?]
    refine ⟨.nil fun other => ?_, fun other => ?_⟩
    · rw [Deed.has, Deed.agent, gone]
      rfl
    · rw [Deed.agent, gone]
      rfl

/-- What stands under other agents does not change. -/
theorem actionsOf_done (holds : capabilities.Holds deeds) (deed : Deed η) (agent : String) :
    actionsOf (deed.done capabilities) agent =
      if deed.agent = agent then deed.left (actionsOf capabilities deed.agent)
      else actionsOf capabilities agent := by
  have sound := holds.agents.areKeys
  have named := Value.isKey_str deed.agent
  unfold Deed.done
  dsimp only
  generalize deed.left (actionsOf capabilities deed.agent) = left
  rw [actionsOf, actionsOf]
  split
  · rename_i empty
    rw [Table.find?_erase sound named, List.isEmpty_iff.mp empty]
    by_cases same : deed.agent = agent
    · simp [same]
    · simp [same]
  · rw [Table.find?_insert sound named]
    by_cases same : deed.agent = agent
    · simp [same]
    · simp [same]

/-- After a deed its agent is there when a handler is left to it. -/
theorem isStaffed_done (holds : capabilities.Holds deeds) (deed : Deed η) (agent : String) :
    Deed.isStaffed agent (deeds ++ [deed]) =
      if deed.agent = agent then !(deed.left (actionsOf capabilities deed.agent)).isEmpty
      else Deed.isStaffed agent deeds := by
  rw [Bool.eq_iff_iff, Deed.isStaffed_iff]
  by_cases same : deed.agent = agent
  · subst same
    rw [if_pos rfl, Bool.not_eq_true', ← Bool.not_eq_true, (holds.left deed).1.isEmpty_iff]
    simp
  · rw [if_neg same, Deed.isStaffed_iff]
    refine exists_congr fun action => ?_
    rw [Deed.has, Deed.held_of_ne same, Deed.has]

/-- A deed keeps the tables in step with what is told. -/
theorem step (holds : capabilities.Holds deeds) (deed : Deed η) :
    (deed.done capabilities).Holds (deeds ++ [deed]) where
  agents := by
    have staffed := holds.isStaffed_done deed
    unfold Deed.done
    dsimp only
    split
    · rename_i empty
      refine holds.agents.erase (fun _ => rfl) fun other => ?_
      rw [staffed, empty]
      by_cases same : deed.agent = other
      · simp [same]
      · simp [same, Ne.symm same]
    · rename_i filled
      refine holds.agents.insert (fun _ => rfl) _ fun other => ?_
      rw [staffed, Bool.eq_false_iff.mpr filled]
      by_cases same : deed.agent = other
      · simp [same]
      · simp [same, Ne.symm same]
  actions agent := by
    rw [holds.actionsOf_done]
    split
    · rename_i same
      exact same ▸ (holds.left deed).1
    · rename_i other
      refine (holds.actions agent).unchanged (fun _ => rfl) fun action => ?_
      rw [Deed.has, Deed.held_of_ne other, Deed.has]
  found agent action := by
    rw [holds.actionsOf_done]
    split
    · rename_i same
      exact same ▸ (holds.left deed).2 action
    · rename_i other
      rw [holds.found, Deed.held_of_ne other]

/-- So do all deeds, one after the other. -/
theorem run (deeds : List (Deed η)) : Holds (deeds.foldl Deed.done []) deeds := by
  induction deeds using List.reverseRecOn with
  | nil => exact .nil
  | append_singleton earlier deed inductionHypothesis =>
    rw [List.foldl_append]
    exact inductionHypothesis.step deed

/-- An agent is found when it has a handler for some action. -/
theorem find?_agent (holds : capabilities.Holds deeds) (agent : String) :
    capabilities.find? (.str agent) =
      if Deed.isStaffed agent deeds then some (actionsOf capabilities agent) else none := by
  rw [← holds.agents.isSome_find? agent, actionsOf]
  cases capabilities.find? (.str agent) <;> rfl

/-- The handler for an action is the one that is told; without one the agent is missing, or else
only the action. -/
theorem handler (holds : capabilities.Holds deeds) (agent action : String) :
    capabilities.handler (.str agent) (.str action) =
      match Deed.held deeds agent action with
      | some handler => .ok handler
      | none =>
        if Deed.isStaffed agent deeds then .error (.actionNotFound (.str agent) (.str action))
        else .error (.agentNotFound (.str agent)) := by
  have named (name : String) : (Value.str name).hashable = .ok () := rfl
  simp only [Capabilities.handler, named, bind, Except.bind, holds.find?_agent]
  cases staffed : Deed.isStaffed agent deeds with
  | true =>
    simp only [if_true, holds.found]
    cases Deed.held deeds agent action <;> rfl
  | false =>
    cases known : Deed.held deeds agent action with
    | none => rfl
    | some handler =>
      have there : Deed.has agent action deeds = true := by
        rw [Deed.has, known]
        rfl
      rw [Deed.isStaffed_iff.mpr ⟨action, there⟩] at staffed
      cases staffed

theorem has (holds : capabilities.Holds deeds) (agent action : String) :
    capabilities.has (.str agent) (.str action) = .ok (Deed.has agent action deeds) := by
  rw [Deed.has, ← holds.found]
  rfl

/-- The actions of an agent that is there are those for which it has a handler. -/
theorem actions_eq (holds : capabilities.Holds deeds) (agent : String) :
    capabilities.actions (.str agent) =
      if Deed.isStaffed agent deeds then .ok (actionsOf capabilities agent).keys
      else .error (.agentNotFound (.str agent)) := by
  have named : (Value.str agent).hashable = .ok () := rfl
  simp only [Capabilities.actions, named, bind, Except.bind, holds.find?_agent]
  cases Deed.isStaffed agent deeds <;> rfl

end Holds

/-- After any calls on an empty registry, whether they returned or raised, everything that is asked
about what agents can do is told from the deeds of the calls. The agents are those that have a
handler for some action, in the order in which they came. A handler is found when the last deed
about its agent and its action gave it. If there is none, the agent is not found when it has none at
all, and the action is not found when it has others. The actions of an agent are those for which it has a
handler, in the order in which they came. -/
theorem told_by_deeds (calls : List (Call η)) :
    let left := after [] calls
    let deeds := calls.flatMap Call.deeds
    (∀ agent, Deed.isStaffed agent deeds = true ↔ ∃ action, Deed.has agent action deeds = true) ∧
    (∃ names : List String, left.agents = names.map .str ∧ Lists Deed.isStaffed deeds names) ∧
    (∀ agent action, left.handler (.str agent) (.str action) =
      match Deed.held deeds agent action with
      | some handler => .ok handler
      | none =>
        if Deed.isStaffed agent deeds then .error (.actionNotFound (.str agent) (.str action))
        else .error (.agentNotFound (.str agent))) ∧
    (∀ agent action,
      left.has (.str agent) (.str action) = .ok (Deed.held deeds agent action).isSome) ∧
    ∀ agent, ∃ names : List String, Lists (Deed.has agent) deeds names ∧
      left.actions (.str agent) =
        if Deed.isStaffed agent deeds then .ok (names.map .str)
        else .error (.agentNotFound (.str agent)) := by
  intro left deeds
  have holds : left.Holds deeds := by
    rw [show left = _ from after_eq calls []]
    exact .run deeds
  refine ⟨fun agent => Deed.isStaffed_iff, holds.agents, holds.handler, holds.has, fun agent => ?_⟩
  obtain ⟨names, keys, roster⟩ := holds.actions agent
  exact ⟨names, roster, keys ▸ holds.actions_eq agent⟩

/-- An agent that has lost its only action comes last when it is given another, though the call that
gives it fails afterwards. -/
example : agents (after [] [.register "monitor" "check" (some 1),
    .register "execute" "send" (some 2), .unregister "monitor" (some "check"),
    .registerAll "monitor" [("watch", some 3), ("tell", none)]]) =
      [.str "execute", .str "monitor"] := by
  cbv

end Capabilities

end Stepwise
