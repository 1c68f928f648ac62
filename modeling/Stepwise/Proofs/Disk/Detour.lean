import Stepwise.Proofs.Disk.Directory

/-!
# Detours

A text with slashes leads to its last name by way of what stands before it: the last name lies right
below where that leads. So two texts lead to one place when their last names are the same and what
stands before them leads to one directory.
-/

namespace Stepwise

namespace Text

variable {mark : Char}

theorem splitAt_ne_nil (text : List Char) : splitAt mark text ≠ [] := by
  cases text with
  | nil => simp [splitAt]
  | cons c rest =>
    rw [splitAt]
    split
    · simp
    · split <;> simp

/-- What stands on both sides of a mark is split separately. -/
theorem splitAt_append (text more : List Char) :
    splitAt mark (text ++ mark :: more) = splitAt mark text ++ splitAt mark more := by
  induction text with
  | nil => exact splitAt_cons_mark more
  | cons c rest inductionHypothesis =>
    rw [List.cons_append, splitAt, splitAt, inductionHypothesis]
    by_cases same : c = mark
    · rw [if_pos same, if_pos same, List.cons_append]
    · rw [if_neg same, if_neg same]
      cases parts : splitAt mark rest with
      | nil => exact absurd parts (splitAt_ne_nil rest)
      | cons first parts => rfl

/-- A text has a last mark, unless it has none at all. -/
theorem exists_last_mark (text : List Char) :
    mark ∉ text ∨ ∃ front last, text = front ++ mark :: last ∧ mark ∉ last := by
  induction text with
  | nil => exact .inl List.not_mem_nil
  | cons c rest inductionHypothesis =>
    rcases inductionHypothesis with absent | ⟨front, last, rfl, absent⟩
    · by_cases same : c = mark
      · exact .inr ⟨[], rest, by rw [same]; rfl, absent⟩
      · exact .inl (mt List.mem_cons.mp (not_or.mpr ⟨Ne.symm same, absent⟩))
    · exact .inr ⟨c :: front, last, rfl, absent⟩

end Text

namespace Path

variable {name : String}

theorem namesOf_append (text more : List Char) :
    namesOf (text ++ '/' :: more) = namesOf text ++ namesOf more := by
  rw [namesOf, Text.splitAt_append, List.map_append, List.filter_append]
  rfl

theorem namesOf_name (plain : IsPlainName name) : namesOf name.toList = [name] := by
  obtain ⟨slashless, some, still⟩ := plain
  rw [namesOf, Text.splitAt_of_not_mem slashless]
  simp [some, still]

/-- The root of a text is told without its last name. -/
theorem rootOf_append {c : Char} (other : c ≠ '/') (text more : List Char) :
    rootOf (text ++ '/' :: c :: more) = rootOf (text ++ ['/']) := by
  rcases text with _ | ⟨first, _ | ⟨second, rest⟩⟩
  · simp [rootOf, other]
  · by_cases slash : first = '/'
    · subst slash
      simp [rootOf, other]
    · simp [rootOf, slash]
  · by_cases slash : first = '/'
    · subst slash
      by_cases slash : second = '/'
      · subst slash
        cases rest with
        | nil => rfl
        | cons third rest =>
          by_cases slash : third = '/'
          · subst slash
            rfl
          · simp [rootOf, slash]
      · simp [rootOf, slash]
    · simp [rootOf, slash]

/-- A text leads to its last name by way of what stands before it. -/
theorem join_append (path : Path) (front : String) (plain : IsPlainName name) :
    path.join (front ++ "/" ++ name) = (path.join (front ++ "/")).below name := by
  obtain ⟨c, more, spelled, other⟩ : ∃ c more, name.toList = c :: more ∧ c ≠ '/' := by
    cases spelled : name.toList with
    | nil => exact absurd (String.toList_eq_nil_iff.mp spelled) plain.2.1
    | cons c more =>
      refine ⟨c, more, rfl, ?_⟩
      rintro rfl
      exact plain.1 (spelled ▸ List.mem_cons_self)
  have whole : (front ++ "/" ++ name).toList = front.toList ++ '/' :: name.toList := by
    simp
  have before : (front ++ "/").toList = front.toList ++ '/' :: [] := by
    simp
  have names : namesOf (front ++ "/" ++ name).toList = namesOf (front ++ "/").toList ++ [name] := by
    rw [whole, before, namesOf_append, namesOf_append, namesOf_name plain]
    simp [namesOf, Text.splitAt]
  have root : rootOf (front ++ "/" ++ name).toList = rootOf (front ++ "/").toList := by
    rw [whole, before, spelled, rootOf_append other]
  have same : ofText (front ++ "/" ++ name) = (ofText (front ++ "/")).below name := by
    rw [ofText, names, root]
    rfl
  have kind : ((ofText (front ++ "/")).below name).isAbsolute = (ofText (front ++ "/")).isAbsolute :=
    rfl
  unfold join
  dsimp only
  rw [same, kind]
  split
  · rfl
  · exact congrArg (Path.mk path.root) (List.append_assoc _ _ _).symm

end Path

namespace Files

variable {files : Files} {path : Path} {name : String} {goal : Place}

/-- What leads right below a directory leads to that first. -/
theorem walk_of_below {start : Place} {names : List String} (down : name ≠ "..")
    (leads : files.walk start (names ++ [name]) = .ok goal) :
    ∃ place, files.walk start names = .ok place ∧ files.find? place = some .directory ∧
      goal = place ++ [name] := by
  induction names generalizing start with
  | nil =>
    rw [List.nil_append, walk] at leads
    cases found : files.find? start with
    | none => simp [found] at leads
    | some entry =>
      cases entry with
      | file content => simp [found] at leads
      | directory =>
        simp only [found, if_neg down] at leads
        split at leads
        · cases leads
        · exact ⟨start, rfl, found, (Except.ok.inj leads).symm⟩
  | cons first rest inductionHypothesis =>
    rw [List.cons_append] at leads
    rw [walk] at leads ⊢
    cases found : files.find? start with
    | none => simp [found] at leads
    | some entry =>
      cases entry with
      | file content => simp [found] at leads
      | directory =>
        simp only [found] at leads ⊢
        by_cases up : first = ".."
        · rw [if_pos up] at leads ⊢
          exact inductionHypothesis leads
        · rw [if_neg up] at leads ⊢
          split at leads
          · cases leads
          · rename_i short
            rw [if_neg short]
            exact inductionHypothesis leads

/-- The text of a path goes on in the text of a path below it. -/
theorem text_of_below (path : Path) (some : name ≠ "") :
    path.text.utf8ByteSize ≤ (path.below name).text.utf8ByteSize ∧
      ∀ c ∈ path.text.toList, c ∈ (path.below name).text.toList ∨ c = '.' := by
  obtain ⟨tail, whole, proper⟩ : ∃ tail,
      path.root ++ "/".intercalate (path.names ++ [name]) =
        path.root ++ "/".intercalate path.names ++ tail ∧ 1 ≤ tail.utf8ByteSize := by
    have long : 1 ≤ name.utf8ByteSize := by
      rw [Nat.one_le_iff_ne_zero, ne_eq, String.utf8ByteSize_eq_zero_iff]
      exact some
    by_cases first : path.names = []
    · refine ⟨name, ?_, long⟩
      rw [first, List.nil_append, String.intercalate_singleton, String.intercalate_nil,
        String.append_empty]
    · refine ⟨"/" ++ name, ?_, ?_⟩
      · rw [String.intercalate_append_of_ne_nil first (by simp), String.intercalate_singleton]
        simp only [String.append_assoc]
      · rw [String.utf8ByteSize_append]
        omega
  have told : (path.below name).text = path.root ++ "/".intercalate path.names ++ tail := by
    have filled : ¬ path.root ++ "/".intercalate path.names ++ tail = "" := by
      intro blank
      obtain ⟨-, rfl⟩ := String.append_eq_empty_iff.mp blank
      exact absurd proper (by decide)
    unfold Path.text Path.below
    dsimp only
    rw [whole, if_neg filled]
  rw [told, String.utf8ByteSize_append, String.toList_append]
  unfold Path.text
  dsimp only
  split
  · rename_i blank
    rw [blank]
    refine ⟨?_, fun c member => .inr (List.mem_singleton.mp member)⟩
    exact Nat.le_trans proper (Nat.le_add_left _ _)
  · exact ⟨Nat.le_add_right _ _, fun c member => .inl (List.mem_append_left _ member)⟩

/-- What a path leads to is what is at the place that it leads to. -/
theorem find?_of_entry {entry : Entry} (leads : files.locate path = .ok goal)
    (met : files.entry path = .ok entry) : files.find? goal = some entry := by
  rw [Files.entry, leads] at met
  obtain ⟨place, same, met⟩ := Result.bind_ok met
  obtain rfl := Except.ok.inj same
  split at met
  · rename_i found present
    obtain rfl := Except.ok.inj met
    exact present
  · cases met

theorem size_of_locate (leads : files.locate path = .ok goal) :
    path.text.utf8ByteSize < pathLimit := by
  unfold locate at leads
  split at leads
  · cases leads
  · split at leads
    · cases leads
    · omega

theorem locate_of_below (some : name ≠ "") (down : name ≠ "..")
    (leads : files.locate (path.below name) = .ok goal) :
    ∃ place, files.locate path = .ok place ∧ files.find? place = Option.some .directory ∧
      goal = place ++ [name] := by
  obtain ⟨fits, known⟩ := text_of_below path some
  unfold locate at leads ⊢
  split at leads
  · cases leads
  · rename_i nulless
    split at leads
    · cases leads
    · rename_i short
      have nulless' : ¬ path.text.toList.contains '\x00' = true := by
        intro null
        rcases known _ (List.contains_iff_mem.mp null) with member | point
        · exact nulless (List.contains_iff_mem.mpr member)
        · exact absurd point (by decide)
      rw [if_neg nulless', if_neg (by omega)]
      exact walk_of_below down leads

end Files

end Stepwise
