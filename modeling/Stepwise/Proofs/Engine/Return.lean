import Stepwise.Proofs.Engine.Exposure

/-!
# When an execution returns

Turn by turn, a run weathers what goes wrong, or a fault escapes from it and ends it. So the
execution of an accepted workflow returns a record in a last status exactly when no turn lets a
fault escape, and that record tells all that went wrong besides.
-/

namespace Stepwise

/-! ## The whole course -/

/-- How a run stands after the turns of its course. Either no fault has escaped, the run has come
nearer to its end with each of them, and its record tells what went wrong; or a fault has escaped
and has ended the run. -/
def Run.Weathers {η : Type} (run : Run η) (moves : Nat) (past : List (Turn η)) : Prop :=
  ((∀ turn ∈ past, ¬ turn.Escapes) ∧ (∀ f, run ≠ .finished (.error f)) ∧
      (run.result? = none → run.movesLeft + past.length ≤ moves) ∧
      ∀ execution, run.execution? = some execution →
        ∀ turn ∈ past, ∀ step f, turn.Meets step f → execution.Tells step f) ∨
    (∃ turn ∈ past, turn.Escapes) ∧ ∃ f, run = .finished (.error f)

/-- Only a run that has still to be loaded, or met a fault, has no record. -/
theorem Run.IsSound.record {η : Type} {run : Run η} (sound : run.IsSound)
    (whole : ∀ f, run ≠ .finished (.error f)) : ∃ execution, run.execution? = some execution := by
  cases run with
  | loading claimed => exact sound.elim
  | finished result =>
    cases result with
    | error f => exact absurd rfl (whole f)
    | ok execution => exact ⟨_, rfl⟩
  | _ => exact ⟨_, rfl⟩

theorem Turn.weathers {η : Type} {turn : Turn η} {past : List (Turn η)} {moves : Nat}
    (sound : turn.run.IsSound) (clean : turn.run.IsClean) (kept : turn.IsKept)
    (before : turn.run.Weathers moves past) :
    turn.after.1.IsClean ∧ turn.after.1.Weathers moves (past ++ [turn]) := by
  obtain ⟨safe, whole, nearer, told⟩ | ⟨⟨other, member, escapes⟩, f, ended⟩ := before
  · by_cases escapes : turn.Escapes
    · obtain ⟨f, faults⟩ | advances := turn.advances_or_faults sound
      · rw [faults]
        exact ⟨trivial, .inr ⟨⟨turn, by simp, escapes⟩, f, rfl⟩⟩
      · exact absurd advances (escapes.not_advances sound clean)
    · obtain ⟨next, left, advances⟩ := turn.advances_of_not_escapes sound clean kept escapes
      have after := turn.after_of_advances sound advances
      have unfinished := turn.unfinished_before
      rw [after] at unfinished ⊢
      dsimp only at unfinished ⊢
      refine ⟨advances.clean sound clean, .inl ⟨?_, advances.unfaulted whole, ?_, ?_⟩⟩
      · intro other member
        obtain earlier | last := List.mem_append.mp member
        · exact safe other earlier
        · exact List.mem_singleton.mp last ▸ escapes
      · intro onward
        have going := unfinished onward
        have shorter := advances.movesLeft sound clean going
        have counted := nearer going
        rw [List.length_append, List.length_singleton]
        omega
      · intro execution come other member step f meets
        obtain earlier | last := List.mem_append.mp member
        · obtain ⟨before, was⟩ := sound.record whole
          obtain ⟨result, recorded, named⟩ := told before was other earlier step f meets
          exact ⟨result, advances.results was come result recorded, named⟩
        · obtain rfl := List.mem_singleton.mp last
          exact meets.tells advances come
  · rw [Turn.after_of_finished ended]
    exact ⟨trivial, .inr ⟨⟨other, List.mem_append_left _ member, escapes⟩, f, rfl⟩⟩

/-- Along a course whose records are kept, a run weathers every turn or a fault escapes from it. -/
theorem Course.weathers {η : Type} {around : Interim η} {place final : Run η × Engine η}
    {turns : List (Turn η)} (course : Course around place turns final)
    (sound : place.1.IsSound) (clean : place.1.IsClean) (onward : place.1.result? = none)
    (kept : ∀ turn ∈ turns, turn.IsKept) :
    final.1.IsSound ∧ final.1.Weathers place.1.movesLeft turns := by
  have begun : place.1.Weathers place.1.movesLeft [] := by
    refine .inl ⟨by simp, ?_, fun _ => Nat.le_refl _, by simp⟩
    rintro f ended
    rw [ended] at onward
    cases onward
  have keeping : Course (fun _ turn => turn.IsKept) place turns final :=
    course.mono fun _ turn member _ => kept turn member
  have carried := keeping.preserves
    (fun past run _ => run.IsSound ∧ run.IsClean ∧ run.Weathers place.1.movesLeft past) ?_ []
    ⟨sound, clean, begun⟩
  · exact ⟨carried.1, carried.2.2⟩
  · rintro past left turn ⟨sound, clean, weathers⟩ kept
    exact ⟨Turn.isSound_after sound, turn.weathers sound clean kept weathers⟩

/-- A run from which no fault escapes comes back with a record once it has had its moves. -/
theorem Course.returns {η : Type} {around : Interim η} {place final : Run η × Engine η}
    {turns : List (Turn η)} (course : Course around place turns final)
    (sound : place.1.IsSound) (clean : place.1.IsClean) (onward : place.1.result? = none)
    (kept : ∀ turn ∈ turns, turn.IsKept) (safe : ∀ turn ∈ turns, ¬ turn.Escapes)
    (enough : place.1.movesLeft ≤ turns.length) :
    ∃ execution, final.1 = .finished (.ok execution) ∧ execution.isTerminal = true := by
  obtain ⟨sound, ⟨-, whole, nearer, -⟩ | ⟨⟨turn, member, escapes⟩, -⟩⟩ :=
    course.weathers sound clean onward kept
  · cases came : final.1.result? with
    | none =>
      have counted := nearer came
      have moving := Run.movesLeft_pos sound came
      omega
    | some result =>
      have stands : final.1 = .finished result := Run.eq_of_result? came
      cases result with
      | error f => exact absurd stands (whole f)
      | ok execution =>
        rw [stands] at sound
        exact ⟨execution, stands, sound⟩
  · exact absurd escapes (safe turn member)

namespace Engine

end Engine

namespace Letters

theorem register_isOk (definition : Workflow)
    (taken : ((Workflows.register definition).runOn .empty).1.isOk = true)
    (plain : definition.copied = definition) : definition.IsAccepted := by
  rcases made : (Workflows.register definition).runOn .empty with ⟨f | _, changed⟩
  · rw [made] at taken
    cases taken
  · exact ⟨definition, .empty, changed, made, plain.symm⟩

theorem accepted : workflow.IsAccepted := by
  refine register_isOk workflow (by decide +kernel) ?_
  simp [Workflow.copied, Step.copied, workflow, fetch, note, Value.copied, Value.copiedEntries]

/-- Noting under a name that is no key. -/
def unbound : Step := { note with output := .list [.str "text"] }

end Letters

end Stepwise
