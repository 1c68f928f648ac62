import Stepwise.Disk.Path

/-!
# The texts of paths

A path is read from its text again: its root has slashes only and its names are those between
slashes. Every path that was read from a text is of this kind, and so is the path of a name below
it.
-/

namespace Stepwise

namespace Text

variable {mark : Char}

theorem splitAt_of_not_mem {text : List Char} (absent : mark ∉ text) :
    splitAt mark text = [text] := by
  induction text with
  | nil => rfl
  | cons c rest inductionHypothesis =>
    obtain ⟨other, later⟩ := not_or.mp (mt List.mem_cons.mpr absent)
    rw [splitAt, if_neg (Ne.symm other), inductionHypothesis later]

theorem splitAt_cons_mark (text : List Char) :
    splitAt mark (mark :: text) = [] :: splitAt mark text := by
  rw [splitAt, if_pos rfl]

/-- What stands before the first mark is the first part. -/
theorem splitAt_append_mark {first : List Char} (absent : mark ∉ first) (text : List Char) :
    splitAt mark (first ++ mark :: text) = first :: splitAt mark text := by
  induction first with
  | nil => exact splitAt_cons_mark text
  | cons c rest inductionHypothesis =>
    obtain ⟨other, later⟩ := not_or.mp (mt List.mem_cons.mpr absent)
    rw [List.cons_append, splitAt, if_neg (Ne.symm other), inductionHypothesis later]

theorem not_mem_of_mem_splitAt {text part : List Char} (member : part ∈ splitAt mark text) :
    mark ∉ part := by
  induction text generalizing part with
  | nil =>
    rw [List.mem_singleton.mp member]
    exact List.not_mem_nil
  | cons c rest inductionHypothesis =>
    rw [splitAt] at member
    split at member
    · rcases List.mem_cons.mp member with rfl | later
      · exact List.not_mem_nil
      · exact inductionHypothesis later
    · rename_i other
      split at member
      · rw [List.mem_singleton.mp member]
        simpa using Ne.symm other
      · rename_i first parts cut
        rw [cut] at inductionHypothesis
        rcases List.mem_cons.mp member with rfl | later
        · rw [List.mem_cons, not_or]
          exact ⟨Ne.symm other, inductionHypothesis List.mem_cons_self⟩
        · exact inductionHypothesis (List.mem_cons_of_mem _ later)

end Text

namespace Path

/-- A name that stays in the text of a path as it is. -/
def IsPlainName (name : String) : Prop := '/' ∉ name.toList ∧ name ≠ "" ∧ name ≠ "."

/-- A path that its text leads back to. -/
structure IsPlain (path : Path) : Prop where
  root : path.root = "" ∨ path.root = "/" ∨ path.root = "//"
  names : ∀ name ∈ path.names, IsPlainName name

/-- The path of a name in a directory. -/
def below (path : Path) (name : String) : Path := { path with names := path.names ++ [name] }

theorem isPlain_ofText (text : String) : (ofText text).IsPlain where
  root := by
    unfold ofText rootOf
    dsimp only
    split <;> simp
  names := by
    intro name member
    obtain ⟨listed, proper⟩ := List.mem_filter.mp member
    obtain ⟨part, cut, rfl⟩ := List.mem_map.mp listed
    rw [Bool.and_eq_true, decide_eq_true_eq, decide_eq_true_eq] at proper
    refine ⟨?_, proper.1, proper.2⟩
    rw [String.toList_ofList]
    exact Text.not_mem_of_mem_splitAt cut

theorem IsPlain.below {path : Path} {name : String} (plain : path.IsPlain)
    (single : IsPlainName name) : (path.below name).IsPlain where
  root := plain.root
  names := by
    intro other member
    rcases List.mem_append.mp member with before | last
    · exact plain.names other before
    · exact List.mem_singleton.mp last ▸ single

/-- The names that are joined by slashes are the parts between slashes. -/
theorem splitAt_intercalate {names : List String} (some : names ≠ [])
    (single : ∀ name ∈ names, IsPlainName name) :
    Text.splitAt '/' ("/".intercalate names).toList = names.map String.toList := by
  induction names with
  | nil => exact absurd rfl some
  | cons name rest inductionHypothesis =>
    obtain ⟨here, later⟩ := List.forall_mem_cons.mp single
    by_cases last : rest = []
    · subst last
      rw [String.intercalate_singleton, Text.splitAt_of_not_mem here.1]
      rfl
    · have joined : ("/".intercalate (name :: rest)).toList =
          name.toList ++ '/' :: ("/".intercalate rest).toList := by
        rw [String.intercalate_cons_of_ne_nil last, String.toList_append, String.toList_append]
        simp
      rw [joined, Text.splitAt_append_mark here.1, inductionHypothesis last later, List.map_cons]

theorem filter_plain {names : List String} (single : ∀ name ∈ names, IsPlainName name) :
    ((names.map String.toList).map String.ofList).filter (fun name => name ≠ "" && name ≠ ".") =
      names := by
  have back : (names.map String.toList).map String.ofList = names := by simp
  rw [back, List.filter_eq_self]
  intro name member
  obtain ⟨-, some, still⟩ := single name member
  simp [some, still]

section Root

variable {c : Char} (other : c ≠ '/') (text : List Char)

include other

theorem rootOf_of_ne : rootOf (c :: text) = "" := by simp [rootOf, other]

theorem rootOf_slash : rootOf ('/' :: c :: text) = "/" := by simp [rootOf, other]

theorem rootOf_slashes : rootOf ('/' :: '/' :: c :: text) = "//" := by simp [rootOf, other]

end Root

/-- A path with names is read from its text again. -/
theorem ofText_text {path : Path} (plain : path.IsPlain) (some : path.names ≠ []) :
    ofText path.text = path := by
  obtain ⟨root, names⟩ := path
  obtain ⟨slashes, single⟩ := plain
  dsimp only at slashes single some
  have parts := splitAt_intercalate some single
  -- The first name is not empty, so what is joined starts with something else than a slash.
  obtain ⟨c, more, joined, other⟩ : ∃ c more, ("/".intercalate names).toList = c :: more ∧
      c ≠ '/' := by
    obtain ⟨name, rest, rfl⟩ := List.exists_cons_of_ne_nil some
    have proper : name.toList ≠ [] := by
      intro blank
      exact (single name List.mem_cons_self).2.1 (String.toList_eq_nil_iff.mp blank)
    cases spelled : ("/".intercalate (name :: rest)).toList with
    | nil =>
      rw [spelled] at parts
      exact absurd (List.cons.inj parts).1.symm proper
    | cons c more =>
      refine ⟨c, more, rfl, ?_⟩
      rintro rfl
      rw [spelled, Text.splitAt_cons_mark] at parts
      exact absurd (List.cons.inj parts).1.symm proper
  have told : (Path.text ⟨root, names⟩).toList = root.toList ++ c :: more := by
    unfold Path.text
    dsimp only
    rw [if_neg, String.toList_append, joined]
    intro blank
    have empty := congrArg String.toList blank
    rw [String.toList_append, joined] at empty
    simp at empty
  have named : namesOf (c :: more) = names := by
    rw [namesOf, ← joined, parts, filter_plain single]
  have slashed (text : List Char) : namesOf ('/' :: text) = namesOf text := by
    rw [namesOf, Text.splitAt_cons_mark, namesOf]
    rfl
  rw [ofText, told, mk.injEq]
  rcases slashes with rfl | rfl | rfl
  · exact ⟨rootOf_of_ne other more, named⟩
  · exact ⟨rootOf_slash other more, (slashed _).trans named⟩
  · exact ⟨rootOf_slashes other more, (slashed _).trans ((slashed _).trans named)⟩

end Path

end Stepwise
