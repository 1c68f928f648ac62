import Stepwise.Proofs.Disk.Directory
import Stepwise.Proofs.Registry.Loading

/-!
# Directories that differ in a rejected file

The definition files of a directory are loaded by name, so where a file stands among the others is
told by its name alone. A name that stands for a rejected file, or for nothing at all, is passed
over on two disks, and all other names stand for the same on both: the two load alike.
-/

namespace Stepwise

/-- Two disks that are the same but for what one name in a directory stands for, if it stands for
anything. -/
structure Files.SameBut (files others : Files) (directory : Path) (place : Place) (name : String) :
    Prop where
  located : files.locate directory = .ok place
  located' : others.locate directory = .ok place
  found : files.find? place = some .directory
  rest : others.remove (place ++ [name]) = files.remove (place ++ [name])
  names : ∀ known ∈ files.inside place, IsFileName known.1

namespace Files.SameBut

variable {files others : Files} {directory : Path} {place : Place} {name other : String}

/-- What stands at another place is found on both disks. -/
theorem find? (same : files.SameBut others directory place name) {goal : Place}
    (apart : goal ≠ place ++ [name]) : others.find? goal = files.find? goal := by
  have removed := congrArg (Files.find? · goal) same.rest
  simp only [find?_remove _ (List.append_ne_nil_of_right_ne_nil place (List.cons_ne_nil name []))]
    at removed
  rwa [if_neg apart, if_neg apart] at removed

theorem found' (same : files.SameBut others directory place name) :
    others.find? place = some .directory := by
  rw [same.find? (by simp)]
  exact same.found

/-- Another name below the directory leads to the same. -/
theorem entry (same : files.SameBut others directory place name) (down : other ≠ "..")
    (apart : other ≠ name) :
    others.entry (directory.below other) = files.entry (directory.below other) := by
  have located : others.locate (directory.below other) = files.locate (directory.below other) := by
    rw [Files.locate_below same.located' same.found' down,
      Files.locate_below same.located same.found down]
  have elsewhere : place ++ [other] ≠ place ++ [name] := by simpa using apart
  rw [Files.entry, Files.entry, located, Files.locate_below same.located same.found down]
  split
  · rfl
  split
  · rfl
  split
  · rfl
  · simp only [bind, Except.bind, same.find? elsewhere]

/-- The names in the directory are the same up to the one. -/
theorem inside (same : files.SameBut others directory place name) :
    (others.inside place).filter (fun known => known.1 ≠ name) =
      (files.inside place).filter (fun known => known.1 ≠ name) := by
  rw [← inside_remove, ← inside_remove, same.rest]

end Files.SameBut

namespace Workflows

variable {files others : Files} {directory path : Path} {place : Place} {name other : String}

/-! ## The files of a directory -/

theorem mem_definitionFiles :
    path ∈ definitionFiles files directory ↔
      ∃ name ∈ files.names directory,
        (∃ ending ∈ endings, ending.toList.isSuffixOf name.toList = true) ∧
          directory.below name = path := by
  rw [definitionFiles, List.mem_mergeSort, List.mem_flatMap]
  simp only [Files.withEnding, List.mem_map, List.mem_filter]
  constructor
  · rintro ⟨ending, listed, name, ⟨member, ends⟩, rfl⟩
    exact ⟨name, member, ⟨ending, listed, ends⟩, rfl⟩
  · rintro ⟨name, member, ⟨ending, listed, ends⟩, rfl⟩
    exact ⟨ending, listed, name, ⟨member, ends⟩, rfl⟩

/-- The files are in the order of their names. -/
theorem sorted_definitionFiles (files : Files) (directory : Path) :
    (definitionFiles files directory).Pairwise fun path later => path.name ≤ later.name := by
  have transitive (a b c : Path) : decide (a.name ≤ b.name) = true →
      decide (b.name ≤ c.name) = true → decide (a.name ≤ c.name) = true := by
    simp only [decide_eq_true_eq]
    exact String.le_trans
  have total (a b : Path) : (decide (a.name ≤ b.name) || decide (b.name ≤ a.name)) = true := by
    simpa using String.le_total a.name b.name
  exact (List.pairwise_mergeSort transitive total _).imp of_decide_eq_true

theorem name_below (directory : Path) (name : String) : (directory.below name).name = name := by
  rw [Path.name, Path.below, List.getLast?_concat, Option.getD_some]

theorem below_inj : directory.below name = directory.below other ↔ name = other := by
  constructor
  · intro same
    rw [← name_below directory name, same, name_below]
  · rintro rfl
    rfl

/-- Files of one directory with one name are one. -/
theorem eq_of_name_eq {path later : Path} (member : path ∈ definitionFiles files directory)
    (member' : later ∈ definitionFiles others directory) (same : path.name = later.name) :
    path = later := by
  obtain ⟨name, -, -, rfl⟩ := mem_definitionFiles.mp member
  obtain ⟨other, -, -, rfl⟩ := mem_definitionFiles.mp member'
  rw [name_below, name_below] at same
  rw [same]

/-! ## Directories that differ in one file -/

theorem filter_withEnding (files : Files) (directory : Path) (ending name : String) :
    (files.withEnding directory ending).filter (· ≠ directory.below name) =
      (((files.names directory).filter (· ≠ name)).filter fun other =>
        ending.toList.isSuffixOf other.toList).map directory.below := by
  have told : (fun path => decide (path ≠ directory.below name)) ∘ directory.below =
      fun other => decide (other ≠ name) := by
    funext other
    simp only [Function.comp_apply, ne_eq, below_inj]
  change (((files.names directory).filter fun other =>
    ending.toList.isSuffixOf other.toList).map directory.below).filter _ = _
  rw [List.filter_map, told, List.filter_filter, List.filter_filter]
  simp only [Bool.and_comm]

theorem filter_names (same : files.SameBut others directory place name) :
    (others.names directory).filter (· ≠ name) = (files.names directory).filter (· ≠ name) := by
  rw [Files.names_eq same.located', Files.names_eq same.located, List.filter_reverse,
    List.filter_reverse, List.filter_map, List.filter_map]
  exact congrArg (fun found => (found.map Prod.fst).reverse) same.inside

/-- Two disks that are the same but for a name have the same definition files but for that name. -/
theorem filter_definitionFiles (same : files.SameBut others directory place name) :
    (definitionFiles others directory).filter (· ≠ directory.below name) =
      (definitionFiles files directory).filter (· ≠ directory.below name) := by
  have listed (ending : String) :
      (others.withEnding directory ending).filter (· ≠ directory.below name) =
        (files.withEnding directory ending).filter (· ≠ directory.below name) := by
    rw [filter_withEnding, filter_withEnding, filter_names same]
  refine List.Perm.eq_of_pairwise ?_ ((sorted_definitionFiles others directory).filter _)
    ((sorted_definitionFiles files directory).filter _) ?_
  · intro path later member member' before after
    exact eq_of_name_eq (List.mem_filter.mp member).1 (List.mem_filter.mp member').1
      (String.le_antisymm before after)
  · refine ((List.mergeSort_perm _ _).filter _).trans ?_
    refine List.Perm.trans ?_ ((List.mergeSort_perm _ _).filter _).symm
    rw [List.filter_flatMap, List.filter_flatMap]
    simp only [listed]
    exact .refl _

theorem sourceOf_below (same : files.SameBut others directory place name)
    (plain : directory.IsPlain) (named : IsFileName other) (apart : other ≠ name) :
    sourceOf others (directory.below other).text = sourceOf files (directory.below other).text := by
  have back : Path.ofText (directory.below other).text = directory.below other :=
    Path.ofText_text (plain.below named.isPlainName) (by simp [Path.below])
  have entry := same.entry named.proper.2.2 apart
  simp only [sourceOf, back, Files.present, Files.status, Files.readText, Files.read, entry]

/-- A rejected file neither adds to what its directory comes to nor takes from it. -/
theorem runOn_loadFiles_of_sameBut (same : files.SameBut others directory place name)
    (plain : directory.IsPlain) (rejected : IsRejected files (directory.below name))
    (rejected' : IsRejected others (directory.below name)) (workflows : Workflows) :
    (loadFiles others (definitionFiles others directory)).runOn workflows =
      (loadFiles files (definitionFiles files directory)).runOn workflows := by
  have spared {paths : List Path} {disk : Files} (off : IsRejected disk (directory.below name)) :
      ∀ path ∈ paths, decide (path ≠ directory.below name) = false → IsRejected disk path := by
    intro path _ here
    rw [decide_eq_false_iff_not, not_not] at here
    exact here ▸ off
  rw [← runOn_loadFiles_filter (spared rejected'), ← runOn_loadFiles_filter (spared rejected),
    filter_definitionFiles same]
  apply runOn_loadFiles_of_source
  intro path member
  obtain ⟨listed, apart⟩ := List.mem_filter.mp member
  obtain ⟨other, known, -, rfl⟩ := mem_definitionFiles.mp listed
  rw [decide_eq_true_eq, Ne, below_inj] at apart
  rw [Files.names_eq same.located, List.mem_reverse] at known
  obtain ⟨entry, there, rfl⟩ := List.mem_map.mp known
  exact sourceOf_below same plain (same.names entry there) apart

/-! ## What a directory comes to -/

/-- Among files of which one ends a loading there is a first one. -/
theorem exists_first_ending {paths : List Path} {f : Fault} (member : path ∈ paths)
    (ends : ending? files path = some f) :
    ∃ before first after g, paths = before ++ first :: after ∧
      (∀ earlier ∈ before, ending? files earlier = none) ∧ ending? files first = some g := by
  induction paths with
  | nil => cases member
  | cons head rest inductionHypothesis =>
    cases here : ending? files head with
    | some g => exact ⟨[], head, rest, g, rfl, List.forall_mem_nil _, here⟩
    | none =>
      rcases List.mem_cons.mp member with rfl | later
      · rw [here] at ends
        cases ends
      · obtain ⟨before, first, after, g, rfl, sound, met⟩ := inductionHypothesis later
        exact ⟨head :: before, first, after, g, rfl, List.forall_mem_cons.mpr ⟨here, sound⟩, met⟩

/-- Loading a directory goes through its definition files by name. It comes to an end in the
ordinary way exactly when no file ends it: then the definitions that the files hold on their own
are registered in that order and no others, and their ids are given. Otherwise it stops at the first
file that ends it with the fault of that file, after the definitions of the files before it. A
rejected file makes no difference: a disk that is the same but for a name under which nothing or
another rejected file stands loads alike. -/
theorem loadDirectory_registers_held (files : Files) (text : String) (workflows : Workflows)
    (there : files.isDirectory (.ofText text) = .ok true) :
    let directory := Path.ofText text
    let paths := definitionFiles files directory
    let definitions := numbered workflows.texts (held files paths)
    paths.Pairwise (fun path later => path.name ≤ later.name) ∧
    ((∃ ids final, (loadDirectory files directory).runOn workflows = (.ok ids, final)) ↔
      ∀ path ∈ paths, ending? files path = none) ∧
    ((∀ path ∈ paths, ending? files path = none) → ∃ final,
      (loadDirectory files directory).runOn workflows =
          (.ok (definitions.map Workflow.id), final) ∧
        (definitions.forM register).runOn (workflows.advanced (held files paths).length) =
          (.ok (), final)) ∧
    (∀ before path after f, paths = before ++ path :: after →
      (∀ earlier ∈ before, ending? files earlier = none) → ending? files path = some f →
      ∃ middle, ((numbered workflows.texts (held files before)).forM register).runOn
          (workflows.advanced (held files before).length) = (.ok (), middle) ∧
        (loadDirectory files directory).runOn workflows =
          (.error f, ((takeFile files path).runOn middle).2)) ∧
    ∀ others place name, files.SameBut others directory place name →
      IsRejected files (directory.below name) → IsRejected others (directory.below name) →
      (loadDirectory others directory).runOn workflows =
        (loadDirectory files directory).runOn workflows := by
  intro directory paths definitions
  have opened : (loadDirectory files directory).runOn workflows =
      (loadFiles files paths).runOn workflows := by
    rw [loadDirectory, there, Effect.runOn_lift_bind]
    rfl
  have whole : (∀ path ∈ paths, ending? files path = none) → ∃ final,
      (loadDirectory files directory).runOn workflows =
          (.ok (definitions.map Workflow.id), final) ∧
        (definitions.forM register).runOn (workflows.advanced (held files paths).length) =
          (.ok (), final) := by
    intro sound
    obtain ⟨final, loaded, registered⟩ := runOn_loadFiles sound workflows
    exact ⟨final, opened.trans loaded, registered⟩
  have stopped (before : List Path) (path : Path) (after : List Path) (f : Fault)
      (split : paths = before ++ path :: after)
      (sound : ∀ earlier ∈ before, ending? files earlier = none)
      (ends : ending? files path = some f) :
      ∃ middle, ((numbered workflows.texts (held files before)).forM register).runOn
          (workflows.advanced (held files before).length) = (.ok (), middle) ∧
        (loadDirectory files directory).runOn workflows =
          (.error f, ((takeFile files path).runOn middle).2) := by
    obtain ⟨middle, registered, loaded⟩ := runOn_loadFiles_of_ending sound ends workflows
    exact ⟨middle, registered, by rw [opened, split, loaded]⟩
  refine ⟨sorted_definitionFiles files directory, ⟨?_, ?_⟩, whole, stopped, ?_⟩
  · rintro ⟨ids, final, loaded⟩ path member
    by_contra ends
    obtain ⟨f, met⟩ := Option.ne_none_iff_exists'.mp ends
    obtain ⟨before, first, after, g, split, sound, met⟩ := exists_first_ending member met
    obtain ⟨middle, -, failed⟩ := stopped before first after g split sound met
    rw [loaded] at failed
    cases failed
  · intro sound
    obtain ⟨final, loaded, -⟩ := whole sound
    exact ⟨_, final, loaded⟩
  · intro others place name same rejected rejected'
    have there' : others.isDirectory directory = .ok true := by
      simp only [Files.isDirectory, Files.status, Files.entry, same.located', same.found', bind,
        Except.bind, pure, Except.pure]
    have opened' : (loadDirectory others directory).runOn workflows =
        (loadFiles others (definitionFiles others directory)).runOn workflows := by
      rw [loadDirectory, there', Effect.runOn_lift_bind]
      rfl
    rw [opened, opened']
    exact runOn_loadFiles_of_sameBut same (Path.isPlain_ofText text) rejected rejected' workflows

/-- A directory with a definition of one line and, before it, a file of any content. -/
def desk (content : List UInt8) : Files where
  entries := [(["desk"], .directory), (["desk", "a.yaml"], .file content),
    (["desk", "b.yml"], .file "id: b".toUTF8.toList)]
  here := []

theorem definitionFiles_desk (content : List UInt8) :
    definitionFiles (desk content) (.ofText "desk") =
      [⟨"", ["desk", "a.yaml"]⟩, ⟨"", ["desk", "b.yml"]⟩] := by
  rw [definitionFiles, List.mergeSort_of_pairwise]
  · rfl
  · change List.Pairwise _ [(⟨"", ["desk", "a.yaml"]⟩ : Path), ⟨"", ["desk", "b.yml"]⟩]
    decide

/-- The first file holds a list that is not closed; without it the directory loads alike. -/
theorem loadDirectory_registers_held_desk :
    (desk [0x5b]).isDirectory (.ofText "desk") = .ok true ∧
      (∃ final, (loadDirectory (desk [0x5b]) (.ofText "desk")).runOn .empty =
        (.ok [.str "b"], final)) ∧
      (loadDirectory ((desk [0x5b]).remove ["desk", "a.yaml"]) (.ofText "desk")).runOn .empty =
        (loadDirectory (desk [0x5b]) (.ofText "desk")).runOn .empty := by
  have there : (desk [0x5b]).isDirectory (.ofText "desk") = .ok true := rfl
  obtain ⟨-, -, whole, -, alike⟩ := loadDirectory_registers_held (desk [0x5b]) "desk" .empty there
  refine ⟨there, ?_, alike _ ["desk"] "a.yaml" ⟨rfl, rfl, rfl, rfl, ?_⟩ ?_ ?_⟩
  · rw [definitionFiles_desk] at whole
    obtain ⟨final, loaded, -⟩ := whole (by
      simp only [List.forall_mem_cons, List.not_mem_nil, false_implies, implies_true, and_true]
      constructor <;> exact Option.isNone_iff_eq_none.mp (by decide +kernel))
    have told : ((numbered empty.texts (held (desk [0x5b])
        [⟨"", ["desk", "a.yaml"]⟩, ⟨"", ["desk", "b.yml"]⟩])).map Workflow.id).map
          (·.isStr "b") = [true] := by decide +kernel
    obtain ⟨id, listed, named⟩ := List.map_eq_singleton_iff.mp told
    rw [listed, Value.eq_str_of_isStr named] at loaded
    exact ⟨final, loaded⟩
  · intro known member
    have listed : known.1 = "a.yaml" ∨ known.1 = "b.yml" := by
      rcases List.mem_cons.mp member with rfl | member
      · exact .inl rfl
      · exact .inr (congrArg Prod.fst (List.mem_singleton.mp member))
    rcases listed with named | named
    · rw [named]
      exact ⟨by decide, by decide, by decide, by decide⟩
    · rw [named]
      exact ⟨by decide, by decide, by decide, by decide⟩
  · exact isRejected_of_not_held (Option.isNone_iff_eq_none.mp (by decide +kernel))
      (Option.isNone_iff_eq_none.mp (by decide +kernel))
  · exact isRejected_of_not_held (Option.isNone_iff_eq_none.mp (by decide +kernel))
      (Option.isNone_iff_eq_none.mp (by decide +kernel))

/-- A file whose characters cannot be had ends a loading, unless it cannot be opened at all: a
neighbour that holds a definition is not registered. -/
theorem undecodable_file_ends_loading :
    (held? (desk [0xff]) ⟨"", ["desk", "b.yml"]⟩).isSome = true ∧
      (loadDirectory (desk [0xff]) (.ofText "desk")).runOn .empty =
        (.error (.machinery "UnicodeDecodeError"
          "'utf-8' codec can't decode byte 0xff in position 0: invalid start byte"), .empty) := by
  have read : (desk [0xff]).read (.ofText (Path.text ⟨"", ["desk", "a.yaml"]⟩)) = .ok [0xff] := by
    rfl
  have undecodable : Utf8.decode [0xff] = .error ⟨0, [0xff], .invalidStart⟩ := by rfl
  have ends := ending?_of_malformed read undecodable
  obtain ⟨middle, registered, loaded⟩ := @runOn_loadFiles_of_ending _ _ [] [⟨"", ["desk", "b.yml"]⟩]
    _ (List.forall_mem_nil _) ends .empty
  refine ⟨by decide +kernel, ?_⟩
  rw [loadDirectory, show (desk [0xff]).isDirectory (.ofText "desk") = .ok true from rfl,
    Effect.runOn_lift_bind]
  dsimp only
  rw [if_pos rfl, definitionFiles_desk]
  rw [runOn_takeFile, sourceOf_of_malformed read undecodable] at loaded
  cases registered
  exact loaded

end Workflows

end Stepwise
