import Stepwise.Proofs.Disk.Files
import Stepwise.Proofs.Disk.Path

/-!
# What a directory holds

The names in a directory with what they stand for, in the order in which they came to be. What is
put below the directory is added to them or takes the place of what has its name, and what is
removed is missing from them. A name below a path leads below the place of the path, provided that
it is the name of one thing and there is room for it.
-/

namespace Stepwise

/-- A text names something in a directory: it is one name that leads nowhere else, and the system
takes it. -/
structure IsFileName (name : String) : Prop where
  slashless : '/' ∉ name.toList
  nulless : '\x00' ∉ name.toList
  proper : name ≠ "" ∧ name ≠ "." ∧ name ≠ ".."
  short : name.utf8ByteSize ≤ Files.longestName

theorem IsFileName.isPlainName {name : String} (named : IsFileName name) :
    Path.IsPlainName name := ⟨named.slashless, named.proper.1, named.proper.2.1⟩

namespace Files

variable {files changed : Files} {place : Place} {name : String}

/-- The name of a place right below another, with what is there. -/
def named? (place : Place) (known : Place × Entry) : Option (String × Entry) :=
  if known.1.dropLast = place && known.1 ≠ [] then
    known.1.getLast?.map fun name => (name, known.2)
  else none

/-- The names in a directory and what they stand for, the earliest first. -/
def inside (files : Files) (place : Place) : List (String × Entry) :=
  files.entries.filterMap (named? place)

theorem named?_eq_some {known : Place × Entry} {found : String × Entry} :
    named? place known = some found ↔ known = (place ++ [found.1], found.2) := by
  obtain ⟨other, entry⟩ := known
  obtain ⟨name, entry'⟩ := found
  unfold named?
  constructor
  · intro same
    split at same
    · rename_i below
      simp only [Bool.and_eq_true, decide_eq_true_eq] at below
      obtain ⟨last, found, named⟩ := Option.map_eq_some_iff.mp same
      obtain ⟨front, rfl⟩ := List.getLast?_eq_some_iff.mp found
      obtain ⟨rfl, rfl⟩ := Prod.mk.inj named
      rw [List.dropLast_concat] at below
      rw [below.1]
    · cases same
  · intro same
    obtain ⟨rfl, rfl⟩ := Prod.mk.inj same
    simp

theorem named?_below (place : Place) (name : String) (entry : Entry) :
    named? place (place ++ [name], entry) = some (name, entry) := named?_eq_some.mpr rfl

/-- What is in a directory is found by its name there. -/
theorem lookup_inside (files : Files) (place : Place) (name : String) :
    files.entries.lookup (place ++ [name]) = (files.inside place).lookup name := by
  unfold inside
  induction files.entries with
  | nil => rfl
  | cons known rest inductionHypothesis =>
    obtain ⟨other, entry⟩ := known
    rw [List.lookup_cons, List.filterMap_cons, inductionHypothesis]
    by_cases same : other = place ++ [name]
    · subst same
      rw [named?_below]
      simp
    · have apart : (place ++ [name] == other) = false := beq_eq_false_iff_ne.mpr (Ne.symm same)
      rw [apart]
      cases below : named? place (other, entry) with
      | none => rfl
      | some found =>
        obtain ⟨last, entry'⟩ := found
        obtain ⟨rfl, -⟩ := Prod.mk.inj (named?_eq_some.mp below)
        have different : (name == last) = false := by
          rw [beq_eq_false_iff_ne]
          rintro rfl
          exact same rfl
        simp [List.lookup_cons, different]

theorem find?_below (files : Files) (place : Place) (name : String) :
    files.find? (place ++ [name]) = (files.inside place).lookup name := by
  rw [find?, if_neg (by simp), lookup_inside]

/-- Whatever else is left out, a name that is kept stands for the same. -/
theorem lookup_filter {α : Type} (entries : List (String × α)) (keep : String → Bool)
    {name : String} (kept : keep name = true) :
    (entries.filter fun known => keep known.1).lookup name = entries.lookup name := by
  induction entries with
  | nil => rfl
  | cons known rest inductionHypothesis =>
    obtain ⟨other, a⟩ := known
    by_cases same : name = other
    · subst same
      rw [List.filter_cons_of_pos (by exact kept), List.lookup_cons_self, List.lookup_cons_self]
    · have apart : (name == other) = false := beq_eq_false_iff_ne.mpr same
      rw [List.filter_cons, List.lookup_cons, apart, ← inductionHypothesis]
      split
      · rw [List.lookup_cons, apart]
      · rfl

/-- A name that is left out stands for nothing, and the others for what they did. -/
theorem lookup_without {α : Type} (entries : List (String × α)) (name other : String) :
    (entries.filter fun known => known.1 ≠ name).lookup other =
      if other = name then none else entries.lookup other := by
  by_cases same : other = name
  · subst same
    rw [if_pos rfl, List.lookup_eq_none_iff]
    intro known member
    exact bne_iff_ne.mpr (Ne.symm (of_decide_eq_true (List.mem_filter.mp member).2))
  · rw [if_neg same]
    exact lookup_filter entries (fun known => known ≠ name) (decide_eq_true same)

/-! ## Changes -/

/-- What is removed below a directory is missing from its names. -/
theorem inside_remove (files : Files) (place : Place) (name : String) :
    (files.remove (place ++ [name])).inside place =
      (files.inside place).filter fun known => known.1 ≠ name := by
  unfold inside remove
  dsimp only
  induction files.entries with
  | nil => rfl
  | cons known rest inductionHypothesis =>
    obtain ⟨other, entry⟩ := known
    by_cases same : other = place ++ [name]
    · subst same
      rw [List.filter_cons_of_neg (by simp), List.filterMap_cons, named?_below,
        List.filter_cons_of_neg (by simp), inductionHypothesis]
    · rw [List.filter_cons_of_pos (by simpa using same), List.filterMap_cons, List.filterMap_cons,
        inductionHypothesis]
      cases below : named? place (other, entry) with
      | none => rfl
      | some found =>
        obtain ⟨last, entry'⟩ := found
        obtain ⟨rfl, -⟩ := Prod.mk.inj (named?_eq_some.mp below)
        have different : last ≠ name := by
          rintro rfl
          exact same rfl
        exact (List.filter_cons_of_pos (by simpa using different)).symm

/-- What is put below a directory under a new name comes last. -/
theorem inside_put_new {entry : Entry} (new : (files.inside place).lookup name = none) :
    (files.put (place ++ [name]) entry).inside place = files.inside place ++ [(name, entry)] := by
  rw [← lookup_inside] at new
  unfold put
  rw [new]
  simp [inside, List.filterMap_append, named?_below]

/-- Nothing is left of what was put at a place once the place is removed. -/
theorem remove_put (files : Files) (place : Place) (entry : Entry) :
    (files.put place entry).remove place = files.remove place := by
  unfold put
  split
  · unfold remove
    dsimp only
    congr 1
    induction files.entries with
    | nil => rfl
    | cons known rest inductionHypothesis =>
      obtain ⟨other, old⟩ := known
      rw [List.map_cons]
      by_cases same : other = place
      · rw [if_pos same, List.filter_cons_of_neg (by simpa using same),
          List.filter_cons_of_neg (by simpa using same), inductionHypothesis]
      · rw [if_neg same, List.filter_cons_of_pos (by simpa using same),
          List.filter_cons_of_pos (by simpa using same), inductionHypothesis]
  · simp [remove, List.filter_append]

/-! ## Paths below a directory -/

/-- The names of a directory are listed from the latest to the earliest. -/
theorem names_eq {path : Path} (located : files.locate path = .ok place) :
    files.names path = ((files.inside place).map Prod.fst).reverse := by
  unfold names inside
  rw [located]
  dsimp only
  rw [List.filterMap_reverse, List.map_filterMap]
  congr 2
  funext known
  obtain ⟨other, entry⟩ := known
  unfold named?
  dsimp only
  split
  · cases other.getLast? <;> rfl
  · rfl

/-- A path with more names leads on from where it led without them. -/
theorem walk_append {start goal : Place} {names : List String} (more : List String)
    (leads : files.walk start names = .ok goal) :
    files.walk start (names ++ more) = files.walk goal more := by
  induction names generalizing start with
  | nil =>
    cases leads
    rfl
  | cons name rest inductionHypothesis =>
    rw [List.cons_append]
    rw [walk] at leads ⊢
    cases found : files.find? start with
    | none => simp [found] at leads
    | some entry =>
      cases entry with
      | file content => simp [found] at leads
      | directory =>
        simp only [found] at leads ⊢
        by_cases up : name = ".."
        · rw [if_pos up] at leads ⊢
          exact inductionHypothesis leads
        · rw [if_neg up] at leads ⊢
          by_cases long : longestName < name.utf8ByteSize
          · rw [if_pos long] at leads
            cases leads
          · rw [if_neg long] at leads ⊢
            exact inductionHypothesis leads

/-- A name leads right below a directory, unless it is too long. -/
theorem walk_below {path : Path} (located : files.locate path = .ok place)
    (found : files.find? place = some .directory) (down : name ≠ "..") :
    files.walk (if path.isAbsolute then [] else files.here) (path.names ++ [name]) =
      if longestName < name.utf8ByteSize then .error .nameTooLong else .ok (place ++ [name]) := by
  unfold locate at located
  split at located
  · cases located
  · split at located
    · cases located
    · rw [walk_append [name] located, walk, found]
      dsimp only
      rw [if_neg down, walk]

/-- Where a name leads below a directory is told by the place of the directory alone. -/
theorem locate_below {path : Path} (located : files.locate path = .ok place)
    (found : files.find? place = some .directory) (down : name ≠ "..") :
    files.locate (path.below name) =
      if (path.below name).text.toList.contains '\x00' then .error .nullCharacter
      else if pathLimit ≤ (path.below name).text.utf8ByteSize then .error .nameTooLong
      else if longestName < name.utf8ByteSize then .error .nameTooLong
      else .ok (place ++ [name]) := by
  rw [← walk_below located found down]
  rfl

/-- The text of a path below another adds a slash at most, besides the name. -/
theorem text_below (path : Path) (proper : name ≠ "") :
    ∃ front, (path.below name).text = front ++ name ∧
      front.utf8ByteSize ≤ path.text.utf8ByteSize + 1 ∧
      ∀ c ∈ front.toList, c ∈ path.text.toList ∨ c = '/' := by
  have told : (path.root ++ "/".intercalate path.names).utf8ByteSize ≤ path.text.utf8ByteSize ∧
      ∀ c ∈ (path.root ++ "/".intercalate path.names).toList, c ∈ path.text.toList := by
    unfold Path.text
    dsimp only
    split
    · rename_i blank
      rw [blank]
      exact ⟨by decide, fun c member => by cases member⟩
    · exact ⟨Nat.le_refl _, fun c member => member⟩
  obtain ⟨front, whole, bounded, known⟩ : ∃ front,
      path.root ++ "/".intercalate (path.names ++ [name]) = front ++ name ∧
        front.utf8ByteSize ≤ path.text.utf8ByteSize + 1 ∧
        ∀ c ∈ front.toList, c ∈ path.text.toList ∨ c = '/' := by
    by_cases first : path.names = []
    · rw [first, String.intercalate_nil, String.append_empty] at told
      refine ⟨path.root, ?_, by omega, fun c member => .inl (told.2 c member)⟩
      rw [first, List.nil_append, String.intercalate_singleton]
    · refine ⟨path.root ++ "/".intercalate path.names ++ "/", ?_, ?_, ?_⟩
      · rw [String.intercalate_append_of_ne_nil first (by simp), String.intercalate_singleton]
        simp only [String.append_assoc]
      · rw [String.utf8ByteSize_append]
        exact Nat.add_le_add_right told.1 1
      · intro c member
        rw [String.toList_append, List.mem_append] at member
        rcases member with member | slash
        · exact .inl (told.2 c member)
        · exact .inr (List.mem_singleton.mp slash)
  refine ⟨front, ?_, bounded, known⟩
  have some : ¬ front ++ name = "" := by
    intro blank
    exact proper (String.append_eq_empty_iff.mp blank).2
  unfold Path.text Path.below
  dsimp only
  rw [whole, if_neg some]

/-- The text below a path that leads somewhere has a NUL character only when the name has. -/
theorem nulless_below {path : Path} (located : files.locate path = .ok place) (proper : name ≠ "")
    (nulless : '\x00' ∉ name.toList) :
    ¬ (path.below name).text.toList.contains '\x00' = true := by
  obtain ⟨front, whole, -, known⟩ := text_below path proper
  unfold locate at located
  split at located
  · cases located
  · rename_i clear
    intro null
    rw [whole, String.toList_append] at null
    rcases List.mem_append.mp (List.contains_iff_mem.mp null) with member | member
    · rcases known _ member with member | slash
      · exact clear (List.contains_iff_mem.mpr member)
      · exact absurd slash (by decide)
    · exact nulless member

/-- A single name stands for itself below a path. -/
theorem join_eq_below (slashless : '/' ∉ name.toList) (proper : name ≠ "" ∧ name ≠ ".")
    (path : Path) : path.join name = path.below name := by
  have whole : Path.namesOf name.toList = [name] := by
    rw [Path.namesOf, Text.splitAt_of_not_mem slashless]
    simp [proper]
  have rootless : Path.rootOf name.toList = "" := by
    unfold Path.rootOf
    split <;> simp_all
  rw [Path.join, Path.ofText, whole, rootless]
  rfl

/-- A path leads to a directory, and leaves room for the names of the files in it. -/
structure HasDirectory (files : Files) (path : Path) (place : Place) : Prop where
  located : files.locate path = .ok place
  found : files.find? place = some .directory
  room : path.text.utf8ByteSize + 1 + longestName < pathLimit

namespace HasDirectory

variable {path : Path} {other : String}

theorem of_keepsDirectories (directory : files.HasDirectory path place)
    (kept : files.KeepsDirectories changed) : changed.HasDirectory path place where
  located := locate_of_keepsDirectories kept directory.located
  found := kept.directories place directory.found
  room := directory.room

theorem nulless_below (directory : files.HasDirectory path place) (proper : name ≠ "")
    (nulless : '\x00' ∉ name.toList) :
    ¬ (path.below name).text.toList.contains '\x00' = true :=
  Files.nulless_below directory.located proper nulless

/-- The name of a file in a directory leads right below it. -/
theorem locate_below (directory : files.HasDirectory path place) (named : IsFileName name) :
    files.locate (path.below name) = .ok (place ++ [name]) := by
  obtain ⟨-, nulless, ⟨some, -, down⟩, short⟩ := named
  obtain ⟨front, whole, bounded, -⟩ := text_below path some
  have room := directory.room
  have fits : ¬ pathLimit ≤ (path.below name).text.utf8ByteSize := by
    rw [whole, String.utf8ByteSize_append]
    omega
  rw [Files.locate_below directory.located directory.found down,
    if_neg (directory.nulless_below some nulless), if_neg fits, if_neg (Nat.not_lt.mpr short)]

theorem target_below (directory : files.HasDirectory path place) (named : IsFileName name) :
    files.target (path.below name) = .ok (place ++ [name]) := by
  simp only [target, directory.locate_below named, bind, Except.bind, List.dropLast_concat,
    directory.found]
  rfl

/-- Whether there is something of a name in a directory. -/
theorem present_below (directory : files.HasDirectory path place) (named : IsFileName name) :
    files.present (path.below name) = .ok ((files.inside place).lookup name).isSome := by
  simp only [present, status, entry, directory.locate_below named, find?_below, bind, Except.bind]
  cases (files.inside place).lookup name <;> rfl

theorem read_below (directory : files.HasDirectory path place) (named : IsFileName name)
    {content : List UInt8} (found : (files.inside place).lookup name = some (.file content)) :
    files.read (path.below name) = .ok content :=
  read_of_find? (directory.locate_below named) ((find?_below files place name).trans found)

theorem write_below (directory : files.HasDirectory path place) (named : IsFileName name)
    (free : files.isDirectoryAt (place ++ [name]) = false) (content : List UInt8) :
    files.write (path.below name) content = .ok (files.put (place ++ [name]) (.file content)) := by
  simp only [write, directory.target_below named, free]
  rfl

/-- A file that is written twice leaves no trace of the first time. -/
theorem rewrite_below (directory : files.HasDirectory path place) (named : IsFileName name)
    (free : files.isDirectoryAt (place ++ [name]) = false) (first content : List UInt8) :
    ∃ opened written, files.write (path.below name) first = .ok opened ∧
      opened.write (path.below name) content = .ok written ∧ written.HasDirectory path place ∧
      (∀ other, written.find? other =
        if other = place ++ [name] then some (.file content) else files.find? other) ∧
      written.remove (place ++ [name]) = files.remove (place ++ [name]) := by
  have below : place ++ [name] ≠ [] := by simp
  have again : (files.put (place ++ [name]) (.file first)).isDirectoryAt (place ++ [name]) =
      false := by
    rw [isDirectoryAt, find?_put files below, if_pos rfl]
  have between := directory.of_keepsDirectories (keepsDirectories_put free first)
  refine ⟨_, _, directory.write_below named free first, between.write_below named again content,
    between.of_keepsDirectories (keepsDirectories_put again content), ?_, ?_⟩
  · intro other
    rw [find?_put _ below, find?_put files below]
    by_cases same : other = place ++ [name]
    · rw [if_pos same, if_pos same]
    · rw [if_neg same, if_neg same, if_neg same]
  · rw [remove_put, remove_put]

/-- A file that is moved over another takes its name, and is the latest one in the directory. -/
theorem replace_below (directory : files.HasDirectory path place) (named : IsFileName name)
    (named' : IsFileName other) {content : List UInt8}
    (found : files.find? (place ++ [other]) = some (.file content))
    (free : files.isDirectoryAt (place ++ [name]) = false) :
    ∃ changed, files.replace (path.below other) (path.below name) = .ok changed ∧
      changed.HasDirectory path place ∧
      changed.inside place = ((files.remove (place ++ [other])).inside place).filter
        (fun known => known.1 ≠ name) ++ [(name, .file content)] := by
  have moved : files.isDirectoryAt (place ++ [other]) = false := by simp [isDirectoryAt, found]
  have vacated : (files.remove (place ++ [other])).isDirectoryAt (place ++ [name]) = false := by
    rw [isDirectoryAt, find?_remove files (by simp)]
    by_cases same : place ++ [name] = place ++ [other]
    · rw [if_pos same]
    · rw [if_neg same]
      exact free
  have absent : ((files.remove (place ++ [other])).remove (place ++ [name])).find?
      (place ++ [name]) = none := by
    rw [find?_remove _ (by simp), if_pos rfl]
  have cleared : ((files.remove (place ++ [other])).remove (place ++ [name])).isDirectoryAt
      (place ++ [name]) = false := by
    rw [isDirectoryAt, absent]
  refine ⟨((files.remove (place ++ [other])).remove (place ++ [name])).put (place ++ [name])
    (.file content), ?_, ?_, ?_⟩
  · simp only [replace, directory.locate_below named', directory.target_below named, found, free,
      bind, Except.bind, Bool.false_eq_true, if_false]
    rfl
  · exact ((directory.of_keepsDirectories (keepsDirectories_remove moved)).of_keepsDirectories
      (keepsDirectories_remove vacated)).of_keepsDirectories (keepsDirectories_put cleared content)
  · rw [inside_put_new ((find?_below _ place name).symm.trans absent), inside_remove]

theorem unlink_below (directory : files.HasDirectory path place) (named : IsFileName name)
    {content : List UInt8} (found : (files.inside place).lookup name = some (.file content)) :
    files.unlink (path.below name) = .ok (files.remove (place ++ [name])) := by
  simp only [unlink, entry, directory.locate_below named, find?_below, found, bind, Except.bind]
  rfl

theorem unlinkIfPresent_below (directory : files.HasDirectory path place)
    (named : IsFileName name) {content : List UInt8}
    (found : (files.inside place).lookup name = some (.file content)) :
    files.unlinkIfPresent (path.below name) = .ok (files.remove (place ++ [name])) := by
  have unlinked := directory.unlink_below named found
  simp only [unlinkIfPresent, entry, directory.locate_below named, find?_below, found, bind,
    Except.bind]
  exact unlinked

end HasDirectory

end Files

end Stepwise
