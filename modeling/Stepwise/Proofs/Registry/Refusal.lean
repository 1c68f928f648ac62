import Stepwise.Proofs.Effect
import Stepwise.Proofs.Value.Key
import Stepwise.Registry.Capabilities

/-!
# Registrations that raise

A handler is registered in steps: its agent is entered unless it is there, the action is entered
under the agent, and the registration is announced by both names. What has been done when a step
raises stays done. A handler that cannot be called is refused before the first step, and so is an
agent that can be no key. An action that can be no key is refused after the agent was entered, and
a name without a text is met after everything was entered.

For names that are texts a registration that raises has therefore changed nothing. For other names
it has changed an answer in two cases only, and then it has either left an agent without actions or
registered the handler all the same.
-/

namespace Stepwise

namespace Table

variable {α : Type} {key : Value}

/-- To insert what is found under a key changes nothing. -/
theorem insert_of_find? {table : Table α} {a : α} (found : table.find? key = some a) :
    table.insert key a = table := by
  induction table with
  | nil => cases found
  | cons entry rest inductionHypothesis =>
    obtain ⟨known, held⟩ := entry
    rw [find?] at found
    rw [insert]
    split
    · rename_i same
      rw [if_pos same] at found
      rw [Option.some.inj found]
    · rename_i apart
      rw [if_neg apart] at found
      rw [inductionHypothesis found]

end Table

namespace Capabilities

variable {η : Type} {capabilities : Capabilities η} {agent action : Value} {f : Fault}

/-- Whatever is asked about what agents can do, two registries answer alike. -/
structure AnswerAlike (left capabilities : Capabilities η) : Prop where
  agents : left.agents = capabilities.agents
  actions : ∀ agent, left.actions agent = capabilities.actions agent
  has : ∀ agent action, left.has agent action = capabilities.has agent action
  handler : ∀ agent action, left.handler agent action = capabilities.handler agent action

theorem AnswerAlike.refl (capabilities : Capabilities η) : capabilities.AnswerAlike capabilities :=
  ⟨rfl, fun _ => rfl, fun _ _ => rfl, fun _ _ => rfl⟩

/-- The actions under which an agent has handlers, none for an agent that is not there. -/
def heldBy (capabilities : Capabilities η) (agent : Value) : Table η :=
  (capabilities.find? agent).getD []

/-- An agent is entered unless it is there. -/
def entered (capabilities : Capabilities η) (agent : Value) : Capabilities η :=
  capabilities.insert agent (capabilities.heldBy agent)

/-- A handler is entered under an action of an agent. -/
def registered (capabilities : Capabilities η) (agent action : Value) (handler : η) :
    Capabilities η :=
  capabilities.insert agent ((capabilities.heldBy agent).insert action handler)

/-- What a registration that raises has left, by the step that raised. -/
inductive Stopped (capabilities : Capabilities η) (agent action : Value) (f : Fault) :
    Option η → Capabilities η → Prop where
  | uncalled : Stopped capabilities agent action f none capabilities
  | unkeyed (handler : η) (keyless : ¬ agent.IsKey) :
    Stopped capabilities agent action f (some handler) capabilities
  | entered (handler : η) (keyed : agent.IsKey) (keyless : ¬ action.IsKey) :
    Stopped capabilities agent action f (some handler) (capabilities.entered agent)
  | registered (handler : η) (keyed : agent.IsKey) (keyed' : action.IsKey)
    (untold : agent.text = .error f ∨ action.text = .error f) :
    Stopped capabilities agent action f (some handler)
      (capabilities.registered agent action handler)

/-- A registration that raises was stopped by one of its steps. -/
theorem stopped_of_raises {handler : Option η} {left : Capabilities η}
    (raises : (register agent action handler).runOn capabilities = (.error f, left)) :
    Stopped capabilities agent action f handler left := by
  cases handler with
  | none =>
    have same : left = capabilities := by
      simp only [register, Effect.runOn_lift_bind] at raises
      split at raises
      · split at raises <;> exact (Prod.mk.inj raises).2.symm
      · exact (Prod.mk.inj raises).2.symm
    exact same ▸ .uncalled
  | some handler =>
    simp only [register, Effect.runOn_lift_bind, Effect.runOn_get_bind,
      Effect.runOn_modify_bind] at raises
    split at raises
    · rename_i keyed
      split at raises
      · rename_i keyed'
        rw [Table.insert_insert (Value.same_self agent)] at raises
        split at raises
        · split at raises
          · cases raises
          · rename_i untold
            obtain ⟨⟨⟩, rfl⟩ := Prod.mk.inj raises
            exact .registered handler keyed keyed' (.inr untold)
        · rename_i untold
          obtain ⟨⟨⟩, rfl⟩ := Prod.mk.inj raises
          exact .registered handler keyed keyed' (.inl untold)
      · rename_i keyless
        obtain ⟨-, rfl⟩ := Prod.mk.inj raises
        exact .entered handler keyed fun keyed' => nomatch keyed'.symm.trans keyless
    · rename_i keyless
      obtain ⟨-, rfl⟩ := Prod.mk.inj raises
      exact .unkeyed handler fun keyed => nomatch keyed.symm.trans keyless

/-- An action that can be no key stops a registration when its agent is entered. -/
theorem runOn_register_unkeyed (capabilities : Capabilities η) (handler : η) (keyed : agent.IsKey)
    (keyless : action.hashable = .error f) :
    (register agent action (some handler)).runOn capabilities =
      (.error f, capabilities.entered agent) := by
  simp only [register, Effect.runOn_lift_bind, Effect.runOn_get_bind, Effect.runOn_modify_bind,
    show agent.hashable = .ok () from keyed, keyless]
  rfl

/-- An agent without a text stops a registration when everything is entered. -/
theorem runOn_register_untold (capabilities : Capabilities η) (handler : η) (keyed : agent.IsKey)
    (keyed' : action.IsKey) (untold : agent.text = .error f) :
    (register agent action (some handler)).runOn capabilities =
      (.error f, capabilities.registered agent action handler) := by
  simp only [register, Effect.runOn_lift_bind, Effect.runOn_get_bind, Effect.runOn_modify_bind,
    show agent.hashable = .ok () from keyed, show action.hashable = .ok () from keyed', untold,
    Table.insert_insert (Value.same_self agent)]
  rfl

/-! ## What has changed -/

/-- A handler is found under keys where it stands. -/
theorem handler_eq_ok_iff (keyed : agent.IsKey) (keyed' : action.IsKey) {known : η} :
    capabilities.handler agent action = .ok known ↔
      (capabilities.heldBy agent).find? action = some known := by
  simp only [Capabilities.handler, show agent.hashable = .ok () from keyed,
    show action.hashable = .ok () from keyed', heldBy, bind, Except.bind]
  cases capabilities.find? agent with
  | none => simp [refuse, Table.find?]
  | some actions =>
    dsimp only [Option.getD_some]
    cases Table.find? action actions with
    | none => simp [refuse]
    | some held => simp [pure, Except.pure]

/-- To enter an agent that is there changes nothing. -/
theorem entered_of_present (present : capabilities.find? agent ≠ none) :
    capabilities.entered agent = capabilities := by
  obtain ⟨actions, found⟩ := Option.ne_none_iff_exists'.mp present
  rw [entered, heldBy, found]
  exact Table.insert_of_find? found

/-- An agent that is new is entered last, without actions. -/
theorem entered_of_absent (keyed : agent.IsKey) (absent : capabilities.find? agent = none) :
    (capabilities.entered agent).agents = capabilities.agents ++ [agent] ∧
      (capabilities.entered agent).actions agent = .ok [] := by
  constructor
  · rw [entered, Table.insert_of_absent (Table.find?_eq_none_iff.mp absent), agents, Table.keys,
      List.map_append]
    rfl
  · rw [entered, heldBy, absent, actions, show agent.hashable = .ok () from keyed,
      Table.find?_insert_self (Value.same_self agent)]
    rfl

/-- A handler that was registered is found. -/
theorem handler_registered (capabilities : Capabilities η) (keyed : agent.IsKey)
    (keyed' : action.IsKey) (known : η) :
    (capabilities.registered agent action known).handler agent action = .ok known := by
  rw [handler_eq_ok_iff keyed keyed', registered, heldBy,
    Table.find?_insert_self (Value.same_self agent), Option.getD_some,
    Table.find?_insert_self (Value.same_self action)]

/-- To register the handler that is found changes nothing. -/
theorem registered_of_found (keyed : agent.IsKey) (keyed' : action.IsKey) {known : η}
    (found : capabilities.handler agent action = .ok known) :
    capabilities.registered agent action known = capabilities := by
  have held := (handler_eq_ok_iff keyed keyed').mp found
  have present : capabilities.find? agent ≠ none := by
    intro absent
    rw [heldBy, absent] at held
    cases held
  rw [registered, Table.insert_of_find? held, ← entered, entered_of_present present]

/-- A registration that raises has changed no answer, exactly if its handler cannot be called, its
agent can be no key, its action can be no key but the agent was there, or both can be keys and that
very handler was registered for them. Otherwise it has left an agent without actions behind, or it
has registered the handler, and what it raises is that one of the names has no text. For names that
are texts the registry is as it was. -/
theorem raising_register (capabilities left : Capabilities η) (agent action : Value)
    (handler : Option η) (f : Fault)
    (raises : (register agent action handler).runOn capabilities = (.error f, left)) :
    (left.AnswerAlike capabilities ↔
      handler = none ∨ ¬ agent.IsKey ∨ (¬ action.IsKey ∧ capabilities.find? agent ≠ none) ∨
        (action.IsKey ∧ ∃ known, handler = some known ∧
          capabilities.handler agent action = .ok known)) ∧
    (left.AnswerAlike capabilities ∨
      (¬ action.IsKey ∧ left.agents = capabilities.agents ++ [agent] ∧
        left.actions agent = .ok []) ∨
      (∃ known, handler = some known ∧ left.handler agent action = .ok known ∧
        (agent.text = .error f ∨ action.text = .error f))) ∧
    (∀ name other, agent = .str name → action = .str other → left = capabilities) := by
  cases stopped_of_raises raises with
  | uncalled => exact ⟨iff_of_true (.refl _) (.inl rfl), .inl (.refl _), fun _ _ _ _ => rfl⟩
  | unkeyed handler keyless =>
    exact ⟨iff_of_true (.refl _) (.inr (.inl keyless)), .inl (.refl _), fun _ _ _ _ => rfl⟩
  | entered handler keyed keyless =>
    have named : ∀ name other, agent = .str name → action = .str other →
        capabilities.entered agent = capabilities := by
      rintro name other rfl rfl
      exact absurd (Value.isKey_str other) keyless
    cases found : capabilities.find? agent with
    | some actions =>
      rw [entered_of_present (by simp [found])] at named ⊢
      exact ⟨iff_of_true (.refl _) (.inr (.inr (.inl ⟨keyless, nofun⟩))), .inl (.refl _), named⟩
    | none =>
      obtain ⟨listed, empty⟩ := entered_of_absent keyed found
      refine ⟨iff_of_false (fun alike => ?_) ?_, .inr (.inl ⟨keyless, listed, empty⟩), named⟩
      · rw [alike.agents] at listed
        simp at listed
      · rintro (⟨⟨⟩⟩ | unkeyed | ⟨-, present⟩ | ⟨keyed', -⟩)
        · exact unkeyed keyed
        · exact present rfl
        · exact keyless keyed'
  | registered handler keyed keyed' untold =>
    refine ⟨⟨fun alike => ?_, fun harmless => ?_⟩, ?_, ?_⟩
    · have found := handler_registered capabilities keyed keyed' handler
      rw [alike.handler] at found
      exact .inr (.inr (.inr ⟨keyed', handler, rfl, found⟩))
    · obtain ⟨⟨⟩⟩ | keyless | ⟨keyless, -⟩ | ⟨-, known, same, found⟩ := harmless
      · exact absurd keyed keyless
      · exact absurd keyed' keyless
      · cases same
        rw [registered_of_found keyed keyed' found]
        exact .refl _
    · exact .inr (.inr ⟨handler, rfl, handler_registered capabilities keyed keyed' handler, untold⟩)
    · rintro name other rfl rfl
      obtain ⟨⟨⟩⟩ | ⟨⟨⟩⟩ := untold

/-- A list can be no action, which makes no difference to an agent that has one. An agent without a
text has got its action when that is found out. -/
theorem raising_register_desk :
    let desk : Capabilities Nat := [(.str "desk", [(.str "note", 1)])]
    let mute : Value := .faulty default "no text"
    let left : Capabilities Nat := desk ++ [(mute, [(.str "note", 2)])]
    (register (.str "desk") (.list []) (some 2)).runOn desk =
        (.error (.typeError "unhashable type: 'list'"), desk) ∧
      desk.AnswerAlike desk ∧
      (register mute (.str "note") (some 2)).runOn desk =
        (.error (.machinery "RuntimeError" "no text"), left) ∧
      ¬ left.AnswerAlike desk := by
  intro desk mute left
  have here : desk.find? (.str "desk") = some [(.str "note", 1)] := by simp [desk, Table.find?]
  have apart : (Value.str "desk").same mute = false := by
    simp [mute, Value.same, Value.leafSame, Value.leaf?]
  have unheld : desk.heldBy mute = [] := by simp [heldBy, desk, Table.find?, apart]
  have kept : (register (.str "desk") (.list []) (some 2)).runOn desk =
      (.error (.typeError "unhashable type: 'list'"), desk) := by
    rw [runOn_register_unkeyed desk 2 (Value.isKey_str "desk") rfl,
      entered_of_present (by simp [here])]
    rfl
  have keyed : mute.IsKey := rfl
  have entered : (register mute (.str "note") (some 2)).runOn desk =
      (.error (.machinery "RuntimeError" "no text"), left) := by
    rw [runOn_register_untold desk 2 keyed (Value.isKey_str "note") rfl, registered, unheld]
    simp [left, desk, Table.insert, apart]
  refine ⟨kept,
    (raising_register desk desk _ _ _ _ kept).1.mpr (.inr (.inr (.inl ⟨?keyless, ?present⟩))),
    entered, fun alike => ?_⟩
  case keyless =>
    intro keyless
    cases keyless
  case present => simp [here]
  obtain ⟨⟨⟩⟩ | unkeyed | ⟨keyless, -⟩ | ⟨-, known, ⟨⟩, found⟩ :=
    (raising_register desk left _ _ _ _ entered).1.mp alike
  · exact unkeyed keyed
  · exact keyless (Value.isKey_str "note")
  · rw [handler_eq_ok_iff keyed (Value.isKey_str "note"), unheld] at found
    cases found

/-- An agent that is new to the registry stays there without actions when its first action turns
out to be no key. It is listed, and what it is asked for is said to be missing from its actions. -/
theorem unkeyed_action_leaves_agent :
    let empty : Capabilities Nat := []
    let left : Capabilities Nat := [(.str "desk", [])]
    (register (.str "desk") (.list []) (some 1)).runOn empty =
        (.error (.typeError "unhashable type: 'list'"), left) ∧
      empty.agents = [] ∧ left.agents = [.str "desk"] ∧
      empty.actions (.str "desk") = .error (.agentNotFound (.str "desk")) ∧
      left.actions (.str "desk") = .ok [] ∧
      empty.handler (.str "desk") (.str "note") = .error (.agentNotFound (.str "desk")) ∧
      left.handler (.str "desk") (.str "note") =
        .error (.actionNotFound (.str "desk") (.str "note")) := by
  intro empty left
  have stopped := runOn_register_unkeyed empty 1 (Value.isKey_str "desk")
    (show (Value.list []).hashable = .error _ from rfl)
  refine ⟨stopped.trans rfl, rfl, rfl, rfl, ?_⟩
  have here : left.find? (.str "desk") = some [] := by simp [left, Table.find?]
  have named (name : String) : (Value.str name).hashable = .ok () := rfl
  simp only [actions, handler, named, here, bind, Except.bind]
  exact ⟨rfl, rfl, rfl⟩

end Capabilities

end Stepwise
