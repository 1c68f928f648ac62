import Stepwise.Proofs.Disk.Detour
import Stepwise.Proofs.Settings.Variables
import Stepwise.Proofs.Text.Blank
import Stepwise.Proofs.Text.Utf8

/-!
# Writing variables to a file

The value of a variable is written between double marks, between single marks or bare. Between
marks every value comes back as it is, with its marks, blanks and signs of equality; a bare one
comes back when it is trimmed and does not look quoted. Blank lines, comments and lines without a
sign of equality may stand anywhere, and of a variable that is written again the last value counts.
-/

namespace Stepwise

namespace Variables

/-! ## Lines -/

/-- How the value of a variable is written. -/
inductive Quoting where
  | double
  | single
  | bare
  deriving DecidableEq

/-- What stands on both sides of the value. -/
def Quoting.marks : Quoting → List Char
  | .double => ['"']
  | .single => ['\'']
  | .bare => []

def Quoting.around (quoting : Quoting) (value : List Char) : List Char :=
  quoting.marks ++ value ++ quoting.marks

/-- The value begins and ends with the same mark, which may be one and the same character. -/
def LooksQuoted (value : List Char) : Prop :=
  ∃ mark ∈ ['"', '\''], value.head? = some mark ∧ value.getLast? = some mark

instance (value : List Char) : Decidable (LooksQuoted value) :=
  List.decidableBEx _ _

/-- A line that sets a variable, or one that sets none. -/
inductive Line where
  | assignment (quoting : Quoting) (name value : String)
  | filler (text : List Char)

namespace Line

def text : Line → List Char
  | assignment quoting name value => name.toList ++ '=' :: quoting.around value.toList
  | filler text => text

def binding? : Line → Option (String × String)
  | assignment _ name value => some (name, value)
  | filler _ => none

end Line

/-- A name that a line can begin with. -/
structure IsName (name : List Char) : Prop where
  proper : name ≠ []
  trimmed : trim name = name
  unassigning : '=' ∉ name
  uncommented : name.head? ≠ some '#'

instance (name : List Char) : Decidable (IsName name) :=
  decidable_of_iff (name ≠ [] ∧ trim name = name ∧ '=' ∉ name ∧ name.head? ≠ some '#')
    ⟨fun ⟨proper, trimmed, unassigning, uncommented⟩ =>
      ⟨proper, trimmed, unassigning, uncommented⟩,
    fun ⟨proper, trimmed, unassigning, uncommented⟩ =>
      ⟨proper, trimmed, unassigning, uncommented⟩⟩

/-- A bare value has to be one that nothing is taken off. -/
def Quoting.Suits (quoting : Quoting) (value : List Char) : Prop :=
  quoting = .bare → trim value = value ∧ ¬ LooksQuoted value

instance (quoting : Quoting) (value : List Char) : Decidable (quoting.Suits value) :=
  inferInstanceAs (Decidable (_ → _))

/-- A line that is read as what it was written for. -/
def Line.Reads : Line → Prop
  | .assignment quoting name value => IsName name.toList ∧ quoting.Suits value.toList
  | .filler text => trim text = [] ∨ (trim text).head? = some '#' ∨ '=' ∉ text

instance : DecidablePred Line.Reads
  | .assignment .. => inferInstanceAs (Decidable (_ ∧ _))
  | .filler _ => inferInstanceAs (Decidable (_ ∨ _))

/-- A line that is read as what it was written for, and that has no line end in it. -/
structure Line.IsProper (line : Line) : Prop where
  reads : line.Reads
  unfed : '\n' ∉ line.text
  unreturned : '\r' ∉ line.text

instance (line : Line) : Decidable line.IsProper :=
  decidable_of_iff (line.Reads ∧ '\n' ∉ line.text ∧ '\r' ∉ line.text)
    ⟨fun ⟨reads, unfed, unreturned⟩ => ⟨reads, unfed, unreturned⟩,
    fun ⟨reads, unfed, unreturned⟩ => ⟨reads, unfed, unreturned⟩⟩

/-! ## Reading a line -/

section Reading

variable {quoting : Quoting} {name value text : List Char}

/-- One mark is taken off both sides of a value, whatever stands between them. -/
theorem unquoted_between {mark : Char} (member : mark ∈ ['"', '\'']) (value : List Char) :
    unquoted (mark :: (value ++ [mark])) = value := by
  have quoted : (mark :: (value ++ [mark])).getLast? = some mark := by
    rw [← List.cons_append, List.getLast?_concat]
  rw [unquoted, quoted, List.head?_cons]
  rcases List.mem_pair.mp member with rfl | rfl <;> simp

/-- A value between marks is trimmed, marks being no blanks. -/
theorem trim_between {mark : Char} (member : mark ∈ ['"', '\'']) (value : List Char) :
    trim (mark :: (value ++ [mark])) = mark :: (value ++ [mark]) := by
  have other : isBlank mark = false := by
    rcases List.mem_pair.mp member with rfl | rfl <;> decide
  refine trim_eq_self_iff.mpr ⟨?_, ?_⟩
  · rw [List.head?_cons]
    rintro _ ⟨⟩
    exact other
  · rw [← List.cons_append, List.getLast?_concat]
    rintro _ ⟨⟩
    exact other

theorem Quoting.around_bare (value : List Char) : Quoting.bare.around value = value :=
  List.append_nil value

theorem unquoted_around (suits : quoting.Suits value) :
    unquoted (quoting.around value) = value := by
  cases quoting with
  | double => exact unquoted_between (by decide) value
  | single => exact unquoted_between (by decide) value
  | bare =>
    have unmarked := (suits rfl).2
    simp only [LooksQuoted, List.mem_cons, List.not_mem_nil, or_false, exists_eq_or_imp,
      exists_eq_left, not_or] at unmarked
    rw [Quoting.around_bare, unquoted, if_neg (by simpa using unmarked)]

theorem trim_around (suits : quoting.Suits value) :
    trim (quoting.around value) = quoting.around value := by
  cases quoting with
  | double => exact trim_between (by decide) value
  | single => exact trim_between (by decide) value
  | bare =>
    rw [Quoting.around_bare]
    exact (suits rfl).1

/-- So the whole line is trimmed, whatever the value. -/
theorem trim_assignment (isName : IsName name) (suits : quoting.Suits value) :
    trim (name ++ '=' :: quoting.around value) = name ++ '=' :: quoting.around value := by
  obtain ⟨front, -⟩ := trim_eq_self_iff.mp isName.trimmed
  obtain ⟨-, behind⟩ := trim_eq_self_iff.mp (trim_around suits)
  refine trim_eq_self_iff.mpr ⟨?_, ?_⟩
  · rwa [List.head?_append_of_ne_nil _ isName.proper]
  · rw [List.getLast?_append_cons]
    intro c last
    cases written : quoting.around value with
    | nil =>
      rw [written, List.getLast?_singleton, Option.mem_some_iff] at last
      rw [← last]
      decide
    | cons d rest =>
      rw [written, List.getLast?_cons_cons, ← written] at last
      exact behind c last

/-- A line that sets a variable gives it back. -/
theorem ofLine?_assignment (isName : IsName name) (suits : quoting.Suits value) :
    ofLine? (name ++ '=' :: quoting.around value) =
      some (String.ofList name, String.ofList value) := by
  have front : (name ++ '=' :: quoting.around value).takeWhile (· ≠ '=') = name := by
    rw [List.takeWhile_append_of_pos fun c member => ?_, List.takeWhile_cons_of_neg (by simp),
      List.append_nil]
    exact decide_eq_true fun same => isName.unassigning (same ▸ member)
  have uncommented : (name ++ '=' :: quoting.around value).head? ≠ some '#' := by
    rw [List.head?_append_of_ne_nil _ isName.proper]
    exact isName.uncommented
  rw [ofLine?, trim_assignment isName suits, if_neg (by simpa using uncommented)]
  dsimp only
  rw [front, List.drop_append, List.drop_eq_nil_of_le (Nat.le_succ _), Nat.add_sub_cancel_left,
    List.nil_append, List.drop_one, List.tail_cons, isName.trimmed, trim_around suits,
    unquoted_around suits]

/-- Trimming adds no sign of equality. -/
theorem ofLine?_filler (reads : (Line.filler text).Reads) : ofLine? text = none := by
  refine if_pos ?_
  rcases reads with blank | comment | unassigning
  · simp [blank]
  · simp [comment]
  · obtain ⟨before, after, -, -, split⟩ := exists_trim text
    rw [split] at unassigning
    simp only [List.mem_append, not_or] at unassigning
    simp [unassigning.1.2]

theorem ofLine?_text {line : Line} (reads : line.Reads) : ofLine? line.text = line.binding? := by
  cases line with
  | assignment quoting name value =>
    rw [Line.text, ofLine?_assignment reads.1 reads.2, String.ofList_toList, String.ofList_toList]
    rfl
  | filler text => exact ofLine?_filler reads

end Reading

/-! ## Reading a file -/

/-- Lines with a line end after each. -/
def ended (lines : List Line) : List Char := lines.flatMap fun line => line.text ++ ['\n']

/-- The text has these lines; the last line end may be missing. -/
def IsWritten (text : List Char) (lines : List Line) : Prop :=
  text = ended lines ∨ text ++ ['\n'] = ended lines

variable {text : List Char} {lines : List Line}

/-- An empty last line sets nothing, so it does not matter whether it is counted. -/
theorem ofText_eq (text : List Char) : ofText text = (Text.splitAt '\n' text).filterMap ofLine? := by
  rw [ofText, Variables.lines]
  split
  · rename_i empty
    obtain ⟨front, split⟩ := List.getLast?_eq_some_iff.mp empty
    rw [split, List.dropLast_concat, List.filterMap_append]
    exact (List.append_nil _).symm
  · rfl

theorem ofText_concat (text : List Char) : ofText (text ++ ['\n']) = ofText text := by
  rw [ofText_eq, ofText_eq, Text.splitAt_append, List.filterMap_append]
  exact List.append_nil _

theorem ofText_ended (proper : ∀ line ∈ lines, line.IsProper) :
    ofText (ended lines) = lines.filterMap Line.binding? := by
  rw [ofText_eq]
  induction lines with
  | nil => rfl
  | cons line rest inductionHypothesis =>
    obtain ⟨here, later⟩ := List.forall_mem_cons.mp proper
    rw [ended, List.flatMap_cons, List.append_assoc, List.singleton_append, ← ended,
      Text.splitAt_append_mark here.unfed, List.filterMap_cons, List.filterMap_cons,
      ofLine?_text here.reads, inductionHypothesis later]

/-- A file gives back what its lines were written for. -/
theorem ofText_of_isWritten (written : IsWritten text lines)
    (proper : ∀ line ∈ lines, line.IsProper) : ofText text = lines.filterMap Line.binding? := by
  rcases written with rfl | unended
  · exact ofText_ended proper
  · rw [← ofText_concat, unended, ofText_ended proper]

theorem unreturned_of_isWritten (written : IsWritten text lines)
    (proper : ∀ line ∈ lines, line.IsProper) : '\r' ∉ text := by
  have absent : '\r' ∉ ended lines := by
    intro member
    obtain ⟨line, listed, there⟩ := List.mem_flatMap.mp member
    rcases List.mem_append.mp there with inside | ending
    · exact (proper line listed).unreturned inside
    · simp at ending
  rcases written with rfl | unended
  · exact absent
  · exact fun member => absent (unended ▸ List.mem_append_left _ member)

end Variables

namespace Environment

open Variables in
/-- From a file that was written line by line come the variables of its lines: each stands where it
was first written and has the value that was written last. -/
theorem loadFile_gives_back_lines (surroundings : Surroundings) (environment : Environment)
    (path : Path) (text : List Char) (lines : List Line)
    (found : firstFile surroundings.files (environment.candidates surroundings) = .ok (some path))
    (content : surroundings.files.read path = .ok (Utf8.encode text))
    (written : IsWritten text lines) (proper : ∀ line ∈ lines, line.IsProper)
    (fresh : environment.bindings = []) :
    ∃ left, (loadFile surroundings).runOn environment = (.ok (), left) ∧
      left.bindings.map Prod.fst =
        ((lines.filterMap Line.binding?).map Prod.fst).eraseDups ∧
      ∀ name, left.bindings.lookup name =
        (lines.filterMap Line.binding?).reverse.lookup name := by
  have read : surroundings.files.readText path = .ok text := by
    rw [Files.readText, content]
    simp only [bind, Except.bind, Utf8.decode_encode]
    rw [Text.uniformLines_of_not_mem (unreturned_of_isWritten written proper)]
    rfl
  have kept : (environment.applyAll path.text (ofText text)).bindings =
      insertAll (lines.filterMap Line.binding?) [] := by
    rw [bindings_applyAll, ofText_of_isWritten written proper, fresh]
  refine ⟨environment.applyAll path.text (ofText text), ?_, ?_, fun name => ?_⟩
  · rw [runOn_loadFile, found]
    dsimp only
    rw [read]
  · rw [kept, names_insertAll]
  · rw [kept, lookup_insertAll, List.lookup_nil, Option.or_none]

namespace Sample

open Variables

/-- One variable is written twice, and the value of another is made of what lines are made of. -/
def written : List Line :=
  [.filler " # MARK=none".toList, .assignment .double "LEVEL" "high", .filler [],
    .assignment .single "MARK" " \"a\" = 'b' # ", .filler "no sign".toList,
    .assignment .bare "LEVEL" "it's low"]

/-- The lines are in the file of the current directory. -/
def shelf : Surroundings where
  files := ⟨[(["work"], .directory), (["work", ".env"], .file (Utf8.encode (ended written)))],
    ["work"]⟩
  home := ⟨"/", ["home"]⟩
  bindings := []

end Sample

theorem loadFile_gives_back_shelf :
    ∃ left, (loadFile Sample.shelf).runOn (create none none []) = (.ok (), left) ∧
      left.bindings.map Prod.fst = ["LEVEL", "MARK"] ∧
      left.bindings.lookup "LEVEL" = some "it's low" ∧
      left.bindings.lookup "MARK" = some " \"a\" = 'b' # " := by
  obtain ⟨left, loaded, names, values⟩ :=
    loadFile_gives_back_lines Sample.shelf (create none none []) ⟨"/", ["work", ".env"]⟩
      (Variables.ended Sample.written) Sample.written (by rfl) (by rfl) (.inl rfl)
      (by decide +kernel) rfl
  refine ⟨left, loaded, names, (values _).trans (by decide +kernel),
    (values _).trans (by decide +kernel)⟩

end Environment

end Stepwise
