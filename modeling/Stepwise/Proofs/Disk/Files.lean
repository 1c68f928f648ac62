import Stepwise.Disk.Files
import Stepwise.Proofs.Effect

/-!
# Files that are put in place

Paths are followed through directories only. Putting a file somewhere and removing one leave every
directory as it was, so they do not change where a path leads. A file that is moved into place is
therefore read at the path it was moved to, with the content it had before.
-/

namespace Stepwise

namespace Files

/-- Every directory is still there, and paths without root still start from the same place. -/
structure KeepsDirectories (files changed : Files) : Prop where
  here : changed.here = files.here
  directories : ∀ place, files.find? place = some .directory →
    changed.find? place = some .directory

variable {files changed : Files}

theorem KeepsDirectories.trans {final : Files} (first : files.KeepsDirectories changed)
    (second : changed.KeepsDirectories final) : files.KeepsDirectories final where
  here := second.here.trans first.here
  directories place found := second.directories place (first.directories place found)

/-- A path that leads somewhere leads there as long as the directories on its way are there. -/
theorem walk_of_keepsDirectories (kept : files.KeepsDirectories changed) {names : List String}
    {place goal : Place} (leads : files.walk place names = .ok goal) :
    changed.walk place names = .ok goal := by
  induction names generalizing place with
  | nil => exact leads
  | cons name rest inductionHypothesis =>
    unfold walk at leads ⊢
    split at leads
    · cases leads
    · cases leads
    · rename_i found
      rw [kept.directories place found]
      dsimp only
      split
      · rename_i up
        rw [if_pos up] at leads
        exact inductionHypothesis leads
      · rename_i down
        rw [if_neg down] at leads
        split at leads
        · cases leads
        · rename_i short
          rw [if_neg short]
          exact inductionHypothesis leads

theorem locate_of_keepsDirectories (kept : files.KeepsDirectories changed) {path : Path}
    {goal : Place} (leads : files.locate path = .ok goal) : changed.locate path = .ok goal := by
  unfold locate at leads ⊢
  split
  · rename_i null
    rw [if_pos null] at leads
    cases leads
  · rename_i notNull
    rw [if_neg notNull] at leads
    split
    · rename_i long
      rw [if_pos long] at leads
      cases leads
    · rename_i short
      rw [if_neg short] at leads
      rw [kept.here]
      exact walk_of_keepsDirectories kept leads

/-! ## Putting and removing -/

theorem lookup_put (entries : List (Place × Entry)) (place other : Place) (entry : Entry) :
    ((entries.map fun (known, old) => if known = place then (known, entry) else (known, old)).lookup
      other) =
      if other = place then (entries.lookup other).map fun _ => entry
      else entries.lookup other := by
  induction entries with
  | nil => simp
  | cons first rest inductionHypothesis =>
    obtain ⟨known, old⟩ := first
    rw [List.map_cons]
    by_cases here : other = known
    · subst here
      by_cases same : other = place <;> simp [same]
    · have check : (other == known) = false := beq_eq_false_iff_ne.mpr here
      by_cases same : known = place
      · simp only [same, if_true, List.lookup_cons, same ▸ check, inductionHypothesis]
      · simp only [same, if_false, List.lookup_cons, check, inductionHypothesis]

/-- What is put at a place is found there, and nothing else changes. -/
theorem find?_put (files : Files) {place : Place} (below : place ≠ []) (entry : Entry)
    (other : Place) :
    (files.put place entry).find? other =
      if other = place then some entry else files.find? other := by
  unfold put find?
  cases known : files.entries.lookup place with
  | some old =>
    simp only [Option.isSome_some, if_true, lookup_put]
    by_cases same : other = place
    · subst same
      simp [below, known]
    · simp only [same, if_false]
  | none =>
    simp only [Option.isSome_none, Bool.false_eq_true, if_false, List.lookup_append]
    by_cases same : other = place
    · subst same
      simp [below, known]
    · have check : (other == place) = false := beq_eq_false_iff_ne.mpr same
      simp [same, List.lookup_cons, check]

/-- What is removed is gone, and nothing else changes. -/
theorem find?_remove (files : Files) {place : Place} (below : place ≠ []) (other : Place) :
    (files.remove place).find? other = if other = place then none else files.find? other := by
  have filtered : (files.remove place).entries.lookup other =
      if other = place then none else files.entries.lookup other := by
    unfold remove
    induction files.entries with
    | nil => simp
    | cons first rest inductionHypothesis =>
      obtain ⟨known, old⟩ := first
      dsimp only at inductionHypothesis ⊢
      by_cases same : known = place
      · rw [List.filter_cons_of_neg (by simp [same]), inductionHypothesis]
        by_cases here : other = place
        · simp [here]
        · have check : (other == known) = false := beq_eq_false_iff_ne.mpr (same ▸ here)
          simp [here, List.lookup_cons, check]
      · rw [List.filter_cons_of_pos (by simp [same]), List.lookup_cons, List.lookup_cons,
          inductionHypothesis]
        by_cases here : other = place
        · have check : (place == known) = false := beq_eq_false_iff_ne.mpr (Ne.symm same)
          simp [here, check]
        · simp [here]
  unfold find?
  rw [filtered]
  by_cases same : other = place
  · subst same
    simp [below]
  · simp [same]

theorem here_put (files : Files) (place : Place) (entry : Entry) :
    (files.put place entry).here = files.here := by
  unfold put
  split <;> rfl

/-- The root is a directory, so what is not a directory is below it. -/
theorem below_of_not_directory {place : Place} (free : files.isDirectoryAt place = false) :
    place ≠ [] := by
  rintro rfl
  simp [isDirectoryAt, find?] at free

theorem not_directory_of_find? {place : Place} (free : files.isDirectoryAt place = false) :
    files.find? place ≠ some .directory := by
  intro found
  simp [isDirectoryAt, found] at free

theorem keepsDirectories_put {place : Place} (free : files.isDirectoryAt place = false)
    (content : List UInt8) : files.KeepsDirectories (files.put place (.file content)) where
  here := here_put files place _
  directories other found := by
    rw [find?_put files (below_of_not_directory free), if_neg]
    · exact found
    · rintro rfl
      exact not_directory_of_find? free found

theorem keepsDirectories_remove {place : Place} (free : files.isDirectoryAt place = false) :
    files.KeepsDirectories (files.remove place) where
  here := rfl
  directories other found := by
    rw [find?_remove files (below_of_not_directory free), if_neg]
    · exact found
    · rintro rfl
      exact not_directory_of_find? free found

/-! ## Writing and replacing -/

theorem locate_of_target {path : Path} {place : Place} (aimed : files.target path = .ok place) :
    files.locate path = .ok place := by
  unfold target at aimed
  cases found : files.locate path with
  | error trouble => simp [found, bind, Except.bind] at aimed
  | ok other =>
    simp only [found, bind, Except.bind] at aimed
    split at aimed
    · cases aimed
      rfl
    · cases aimed
    · cases aimed

/-- A written file is found at its path. -/
theorem write_ok {path : Path} {content : List UInt8}
    (written : files.write path content = .ok changed) :
    ∃ place, files.locate path = .ok place ∧ files.KeepsDirectories changed ∧
      changed.find? place = some (.file content) := by
  unfold write at written
  split at written
  · cases written
  · rename_i place aimed
    split at written
    · cases written
    · rename_i occupied
      have free : files.isDirectoryAt place = false := by simpa using occupied
      cases written
      refine ⟨place, locate_of_target aimed, keepsDirectories_put free content, ?_⟩
      rw [find?_put files (below_of_not_directory free), if_pos rfl]

theorem read_of_find? {path : Path} {place : Place} {content : List UInt8}
    (located : files.locate path = .ok place) (found : files.find? place = some (.file content)) :
    files.read path = .ok content := by
  simp [read, entry, located, found, bind, Except.bind, pure, Except.pure]

/-- A file that was moved has its content at the path it was moved to. -/
theorem replace_ok {source destination : Path} {origin : Place} {content : List UInt8}
    (located : files.locate source = .ok origin)
    (found : files.find? origin = some (.file content))
    (replaced : files.replace source destination = .ok changed) :
    changed.read destination = .ok content := by
  unfold replace at replaced
  cases aimed : files.target destination with
  | error trouble => simp [located, aimed, bind, Except.bind] at replaced
  | ok goal =>
    simp only [located, aimed, found, bind, Except.bind] at replaced
    cases occupied : files.isDirectoryAt goal with
    | true => simp [occupied, throw, throwThe, MonadExceptOf.throw] at replaced
    | false =>
      simp only [occupied, Bool.false_eq_true, if_false, pure, Except.pure] at replaced
      cases replaced
      have moved : files.isDirectoryAt origin = false := by simp [isDirectoryAt, found]
      have vacated : (files.remove origin).isDirectoryAt goal = false := by
        unfold isDirectoryAt at occupied ⊢
        rw [find?_remove files (below_of_not_directory moved)]
        by_cases same : goal = origin
        · simp [same]
        · rw [if_neg same]
          exact occupied
      have cleared : ((files.remove origin).remove goal).isDirectoryAt goal = false := by
        simp [isDirectoryAt, find?_remove _ (below_of_not_directory vacated)]
      have kept := ((keepsDirectories_remove moved).trans (keepsDirectories_remove vacated)).trans
        (keepsDirectories_put cleared content)
      refine read_of_find? (locate_of_keepsDirectories kept (locate_of_target aimed)) ?_
      rw [find?_put _ (below_of_not_directory cleared), if_pos rfl]

end Files

end Stepwise
