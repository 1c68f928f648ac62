import Stepwise.Condition
import Stepwise.Proofs.Text.Blank

/-!
# The language of conditions

A comparison is spelled as its operand, the sign of equality and a quoted text, with blanks on both
sides of the sign. The operand has no sign of equality in it, so a sign that the quoted text
contains is never taken for the one between the two, and a text is spelled so in one way at most.
Parsing finds that way, and refuses every text that is neither a word nor a comparison.
-/

namespace Stepwise

/-- Searching a text finds what is a stretch of it. -/
theorem Value.occursIn_iff {part text : List Char} :
    Value.occursIn part text = true ↔ part <:+: text := by
  induction text with
  | nil => simp [Value.occursIn]
  | cons c rest inductionHypothesis =>
    rw [Value.occursIn, Bool.or_eq_true, inductionHypothesis, List.isPrefixOf_iff_prefix,
      List.infix_cons_iff]

namespace Condition

/-- What is written between quotes for a text: a backslash with any character behind it stands for
that character, and all but quotes and backslashes stand for themselves. -/
inductive Spells : List Char → List Char → Prop where
  | nil : Spells [] []
  | pair (c : Char) {raw text : List Char} (rest : Spells raw text) :
    Spells ('\\' :: c :: raw) (c :: text)
  | plain {c : Char} {raw text : List Char} (quote : c ≠ '"') (backslash : c ≠ '\\')
    (rest : Spells raw text) : Spells (c :: raw) (c :: text)

/-- A text can be the operand of a comparison. -/
structure IsOperand (text : List Char) : Prop where
  some : text ≠ []
  trimmed : trim text = text
  signless : ¬ ['=', '='] <:+: text

/-- How a comparison is spelled: the operand, the blanks before and after the sign of equality, and
what is written between the quotes. -/
structure Comparison where
  operand : List Char
  before : List Char
  after : List Char
  raw : List Char

namespace Comparison

/-- The spelling from the sign of equality on. -/
def behind (comparison : Comparison) : List Char :=
  '=' :: '=' :: (comparison.after ++ '"' :: (comparison.raw ++ ['"']))

def chars (comparison : Comparison) : List Char :=
  comparison.operand ++ (comparison.before ++ comparison.behind)

/-- The spelling keeps the rules, and a text is spelled between its quotes. -/
structure Compares (comparison : Comparison) (literal : List Char) : Prop where
  operand : IsOperand comparison.operand
  before : IsBlanks comparison.before
  after : IsBlanks comparison.after
  spells : Spells comparison.raw literal

end Comparison

/-! ## Quoted texts -/

/-- A quoted text is read up to its end from what is written for it, and from nothing else. -/
theorem quotedEnd?_eq_some_iff {text literal : List Char} :
    quotedEnd? text = some literal ↔ ∃ raw, text = raw ++ ['"'] ∧ Spells raw literal := by
  constructor
  · intro read
    fun_induction quotedEnd? text generalizing literal with
    | case1 => cases read
    | case2 => exact ⟨[], rfl, Option.some.inj read ▸ .nil⟩
    | case3 => cases read
    | case4 => cases read
    | case5 c rest inductionHypothesis =>
      obtain ⟨later, read', rfl⟩ := Option.map_eq_some_iff.mp read
      obtain ⟨raw, rfl, spells⟩ := inductionHypothesis read'
      exact ⟨'\\' :: c :: raw, rfl, .pair c spells⟩
    | case6 c rest quote lone paired inductionHypothesis =>
      obtain ⟨later, read', rfl⟩ := Option.map_eq_some_iff.mp read
      have backslash : c ≠ '\\' := by
        intro escape
        cases rest with
        | nil => exact lone escape rfl
        | cons c' rest => exact paired c' rest escape rfl
      obtain ⟨raw, rfl, spells⟩ := inductionHypothesis read'
      exact ⟨c :: raw, rfl, .plain quote backslash spells⟩
  · rintro ⟨raw, rfl, spells⟩
    induction spells with
    | nil => rfl
    | pair c rest inductionHypothesis =>
      rw [List.cons_append, List.cons_append, quotedEnd?, inductionHypothesis, Option.map_some]
    | plain quote backslash rest inductionHypothesis =>
      rw [List.cons_append, quotedEnd?, inductionHypothesis, Option.map_some]
      · exact quote
      · exact fun escape _ => backslash escape
      · exact fun _ _ escape _ => backslash escape

/-- A text with a backslash in front of each of its quotes and backslashes. -/
def escaped (literal : List Char) : List Char :=
  literal.flatMap fun c => if c = '"' ∨ c = '\\' then ['\\', c] else [c]

theorem spells_escaped (literal : List Char) : Spells (escaped literal) literal := by
  induction literal with
  | nil => exact .nil
  | cons c rest inductionHypothesis =>
    rw [escaped, List.flatMap_cons]
    by_cases special : c = '"' ∨ c = '\\'
    · rw [if_pos special]
      exact .pair c inductionHypothesis
    · rw [if_neg special]
      rw [not_or] at special
      exact .plain special.1 special.2 inductionHypothesis

/-! ## The sign of equality with the quoted text -/

/-- The blanks around the sign, the sign and the quoted text that end a condition are read from
every spelling of them, and from nothing else. -/
theorem comparison?_eq_some_iff {text literal : List Char} :
    comparison? text = some literal ↔ ∃ comparison : Comparison,
      text = comparison.before ++ comparison.behind ∧ IsBlanks comparison.before ∧
        IsBlanks comparison.after ∧ Spells comparison.raw literal := by
  constructor
  · intro found
    unfold comparison? at found
    split at found
    · rename_i rest sign
      split at found
      · rename_i rest' quote
        obtain ⟨raw, rfl, spells⟩ := quotedEnd?_eq_some_iff.mp found
        obtain ⟨before, blanks, front⟩ := exists_trimLeft text
        obtain ⟨after, blanks', middle⟩ := exists_trimLeft rest
        refine ⟨⟨[], before, after, raw⟩, ?_, blanks, blanks', spells⟩
        rw [Comparison.behind, ← quote, ← middle, ← sign]
        exact front
      · cases found
    · cases found
  · rintro ⟨⟨operand, before, after, raw⟩, rfl, blanks, blanks', spells⟩
    have sign : isBlank '=' = false := by decide
    have quote : isBlank '"' = false := by decide
    simp only [comparison?, Comparison.behind, trimLeft_append blanks, trimLeft_append blanks',
      trimLeft_cons sign, trimLeft_cons quote]
    exact quotedEnd?_eq_some_iff.mpr ⟨raw, rfl, spells⟩

/-- A spelling from the sign on has no other decomposition. -/
theorem Comparison.behind_inj {one another : Comparison}
    (blanks : IsBlanks one.after) (blanks' : IsBlanks another.after)
    (same : one.behind = another.behind) : one.after = another.after ∧ one.raw = another.raw := by
  have quote : isBlank '"' = false := by decide
  have middle := List.cons.inj (List.cons.inj same).2
  obtain ⟨after, ending⟩ := blanks_unique blanks blanks' quote quote middle.2
  exact ⟨after, List.append_cancel_right (List.cons.inj ending).2⟩

/-- No comparison can be read from a place inside the operand: a sign of equality that starts there
has its second half there too, or is followed by the sign that ends the operand and not by a
quote. -/
theorem comparison?_inside {tail : List Char} {comparison : Comparison} (some : tail ≠ [])
    (ending : ∀ c ∈ tail.getLast?, isBlank c = false) (signless : ¬ ['=', '='] <:+: tail)
    (blanks : IsBlanks comparison.before) :
    comparison? (tail ++ (comparison.before ++ comparison.behind)) = none := by
  cases found : comparison? (tail ++ (comparison.before ++ comparison.behind)) with
  | none => rfl
  | some literal =>
    exfalso
    obtain ⟨other, same, spaces, spaces', -⟩ := comparison?_eq_some_iff.mp found
    have unblank : ∀ c ∈ tail.getLast?, c ∉ other.before := by
      intro c last member
      have blank := spaces c member
      rw [ending c last] at blank
      cases blank
    rcases List.append_eq_append_iff.mp same with ⟨more, blank, -⟩ | ⟨inner, split, onward⟩
    · apply unblank (tail.getLast some) (List.getLast_mem_getLast? some)
      rw [blank]
      exact List.mem_append_left more (List.getLast_mem some)
    · cases inner with
      | nil =>
        rw [List.append_nil] at split
        apply unblank (tail.getLast some) (List.getLast_mem_getLast? some)
        rw [← split]
        exact List.getLast_mem some
      | cons c inner =>
        cases inner with
        | nil =>
          have sign : isBlank '=' = false := by decide
          have quote : isBlank '"' = false := by decide
          have next := (List.cons.inj onward).2
          obtain ⟨-, behind⟩ := blanks_unique isBlanks_nil blanks sign sign
            ((List.nil_append _).trans next)
          obtain ⟨-, clash⟩ := blanks_unique spaces' isBlanks_nil quote sign
            ((List.cons.inj behind).2.trans (List.nil_append _).symm)
          cases clash
        | cons c' inner =>
          apply signless
          obtain ⟨rfl, next⟩ := List.cons.inj onward
          obtain ⟨rfl, -⟩ := List.cons.inj next
          exact ⟨other.before, inner, by rw [split, List.append_assoc]; rfl⟩

/-! ## Splitting at the sign -/

theorem split?_some {text left literal : List Char} (found : split? text = some (left, literal)) :
    ∃ rest, text = left ++ rest ∧ comparison? rest = some literal := by
  induction text generalizing left with
  | nil => cases found
  | cons c rest inductionHypothesis =>
    rw [split?] at found
    split at found
    · rename_i expected here
      obtain ⟨rfl, rfl⟩ := Prod.mk.inj (Option.some.inj found)
      exact ⟨c :: rest, rfl, here⟩
    · obtain ⟨⟨operand, expected⟩, later, same⟩ := Option.map_eq_some_iff.mp found
      obtain ⟨rfl, rfl⟩ := Prod.mk.inj same
      obtain ⟨ending, rfl, here⟩ := inductionHypothesis later
      exact ⟨ending, rfl, here⟩

/-- A text is split at the sign when no comparison can be read from a place before it. -/
theorem split?_append {operand rest literal : List Char} (found : comparison? rest = some literal)
    (inside : ∀ tail, tail <:+ operand → tail ≠ [] → comparison? (tail ++ rest) = none) :
    split? (operand ++ rest) = some (operand, literal) := by
  induction operand with
  | nil =>
    cases rest with
    | nil => cases found
    | cons c rest => rw [List.nil_append, split?, found]
  | cons c operand inductionHypothesis =>
    have none : comparison? (c :: (operand ++ rest)) = none :=
      inside (c :: operand) (List.suffix_refl _) (List.cons_ne_nil c operand)
    rw [List.cons_append, split?, none]
    dsimp only
    rw [inductionHypothesis fun tail suffix =>
      inside tail (suffix.trans (List.suffix_cons c operand))]
    rfl

namespace Comparison

variable {comparison : Comparison} {literal : List Char}

/-- A comparison is split into its operand and the text that is compared with it. -/
theorem Compares.split? (compares : comparison.Compares literal) :
    split? comparison.chars = some (comparison.operand, literal) := by
  have last := (trim_eq_self_iff.mp compares.operand.trimmed).2
  have behind := comparison?_eq_some_iff.mpr
    ⟨comparison, rfl, compares.before, compares.after, compares.spells⟩
  apply split?_append behind
  intro tail suffix some
  apply comparison?_inside some _ _ compares.before
  · intro c ending
    obtain ⟨front, split⟩ := suffix
    apply last c
    rw [← split, List.getLast?_append]
    exact Option.or_eq_some_iff.mpr (.inl ending)
  · intro sign
    exact compares.operand.signless (sign.trans suffix.isInfix)

/-- A text spells one comparison at most. -/
theorem Compares.unique {other : Comparison} {literal' : List Char}
    (compares : comparison.Compares literal) (compares' : other.Compares literal')
    (same : comparison.chars = other.chars) : comparison = other ∧ literal = literal' := by
  have split := compares.split?
  rw [same, compares'.split?] at split
  obtain ⟨operand, rfl⟩ := Prod.mk.inj (Option.some.inj split)
  rw [chars, chars, operand] at same
  have sign : isBlank '=' = false := by decide
  obtain ⟨before, behind⟩ := blanks_unique compares.before compares'.before sign sign
    (List.append_cancel_left same)
  obtain ⟨after, raw⟩ := behind_inj compares.after compares'.after behind
  cases comparison
  cases other
  simp only [mk.injEq, and_true]
  exact ⟨operand.symm, before, after, raw⟩

theorem sign_infix_chars (comparison : Comparison) : ['=', '='] <:+: comparison.chars := by
  refine ⟨comparison.operand ++ comparison.before,
    comparison.after ++ '"' :: (comparison.raw ++ ['"']), ?_⟩
  rw [chars, behind, List.append_assoc, List.append_assoc]
  rfl

end Comparison

/-- A trimmed text that is split has the operand at its start, and blanks at the most between the
operand and the sign. -/
theorem exists_comparison {text left literal : List Char} (trimmed : trim text = text)
    (found : split? text = some (left, literal)) (some : trim left ≠ [])
    (signless : ¬ ['=', '='] <:+: trim left) : ∃ comparison : Comparison,
      comparison.Compares literal ∧ comparison.operand = trim left ∧ comparison.chars = text := by
  obtain ⟨rest, rfl, here⟩ := split?_some found
  obtain ⟨comparison, rfl, blanks, blanks', spells⟩ := comparison?_eq_some_iff.mp here
  obtain ⟨front, spaces, spare, spaces', split⟩ := exists_trim left
  have none : front = [] := by
    cases front with
    | nil => rfl
    | cons c front =>
      have head := (trim_eq_self_iff.mp trimmed).1 c
      rw [split, spare c List.mem_cons_self] at head
      cases head rfl
  rw [none, List.nil_append] at split
  refine ⟨⟨trim left, spaces ++ comparison.before, comparison.after, comparison.raw⟩, ?_, rfl, ?_⟩
  · exact ⟨⟨some, trim_trim left, signless⟩, spaces'.append blanks, blanks', spells⟩
  · calc trim left ++ (spaces ++ comparison.before ++ comparison.behind)
      _ = trim left ++ spaces ++ (comparison.before ++ comparison.behind) := by
        simp only [List.append_assoc]
      _ = left ++ (comparison.before ++ comparison.behind) := by rw [← split]

/-! ## Parsing -/

section Parsing

variable {source : String} {operand literal : List Char}

theorem ofText?_eq_constant_iff {holds : Bool} : ofText? source = some (.constant holds) ↔
    trim source.toList = (if holds then "true" else "false").toList := by
  constructor
  · intro found
    unfold ofText? at found
    dsimp only at found
    split at found
    · rename_i word
      obtain rfl := constant.inj (Option.some.inj found)
      exact word
    · split at found
      · rename_i word
        obtain rfl := constant.inj (Option.some.inj found)
        exact word
      · obtain ⟨⟨left, expected⟩, -, spelled⟩ := Option.bind_eq_some_iff.mp found
        dsimp only at spelled
        split at spelled
        · cases spelled
        · cases Option.some.inj spelled
  · intro word
    rw [ofText?, word]
    cases holds with
    | true => rfl
    | false => rfl

/-- A text is a comparison when it is spelled as one. -/
theorem ofText?_eq_equality_iff : ofText? source = some (.equality operand literal) ↔
    ∃ comparison : Comparison, comparison.Compares literal ∧ comparison.operand = operand ∧
      comparison.chars = trim source.toList := by
  constructor
  · intro found
    unfold ofText? at found
    dsimp only at found
    split at found
    · cases Option.some.inj found
    · split at found
      · cases Option.some.inj found
      · obtain ⟨⟨left, expected⟩, splits, spelled⟩ := Option.bind_eq_some_iff.mp found
        dsimp only at spelled
        split at spelled
        · cases spelled
        · rename_i proper
          rw [not_or, Value.occursIn_iff] at proper
          obtain ⟨rfl, rfl⟩ := equality.inj (Option.some.inj spelled)
          exact exists_comparison (trim_trim _) splits proper.1 proper.2
  · rintro ⟨comparison, compares, rfl, chars⟩
    have sign := comparison.sign_infix_chars.subset List.mem_cons_self
    have other (word : List Char) (signless : '=' ∉ word) : trim source.toList ≠ word := by
      intro same
      rw [chars, same] at sign
      exact signless sign
    have splits := compares.split?
    rw [chars] at splits
    rw [ofText?, if_neg (other _ (by decide)), if_neg (other _ (by decide)), splits]
    have proper : ¬ (trim comparison.operand = [] ∨
        Value.occursIn ['=', '='] (trim comparison.operand) = true) := by
      rw [compares.operand.trimmed, Value.occursIn_iff, not_or]
      exact ⟨compares.operand.some, compares.operand.signless⟩
    show (if _ then none else some _) = _
    rw [if_neg proper, compares.operand.trimmed]

theorem parse_eq_ok_iff {condition : Condition} :
    parse (.str source) = .ok condition ↔ ofText? source = some condition := by
  unfold parse
  dsimp only
  split
  · rename_i found
    rw [found, Except.ok.injEq, Option.some.injEq]
  · rename_i none
    rw [none]
    exact iff_of_false nofun nofun

/-- The plain spelling of a comparison, with one space on either side of the sign. -/
def Comparison.plain (operand literal : List Char) : Comparison where
  operand := operand
  before := [' ']
  after := [' ']
  raw := escaped literal

theorem Comparison.compares_plain (proper : IsOperand operand) (literal : List Char) :
    (plain operand literal).Compares literal := by
  have space : IsBlanks [' '] := by
    intro c member
    obtain rfl := List.mem_singleton.mp member
    decide
  exact ⟨proper, space, space, spells_escaped literal⟩

/-- A spelling that begins with its operand and ends with a quote has no blanks to trim. -/
theorem Comparison.Compares.trimmed {comparison : Comparison}
    (compares : comparison.Compares literal) : trim comparison.chars = comparison.chars := by
  apply trim_eq_self_iff.mpr
  constructor
  · intro c head
    apply (trim_eq_self_iff.mp compares.operand.trimmed).1 c
    rwa [chars, List.head?_append_of_ne_nil _ compares.operand.some] at head
  · intro c last
    have ending : comparison.chars = comparison.operand ++ comparison.before ++
        '=' :: '=' :: (comparison.after ++ '"' :: comparison.raw) ++ ['"'] := by
      simp only [chars, behind, List.append_assoc, List.cons_append]
    rw [ending, List.getLast?_concat] at last
    obtain rfl := Option.some.inj last
    decide

/-- Every operand that the language allows is compared with every text by its plain spelling. -/
theorem parse_plain (proper : IsOperand operand) (literal : List Char) :
    parse (.str (String.ofList (operand ++ " == \"".toList ++ escaped literal ++ ['"']))) =
      .ok (.equality operand literal) := by
  have compares := Comparison.compares_plain proper literal
  have spelled : operand ++ " == \"".toList ++ escaped literal ++ ['"'] =
      (Comparison.plain operand literal).chars := by
    simp only [Comparison.chars, Comparison.behind, Comparison.plain, List.append_assoc]
    rfl
  rw [parse_eq_ok_iff, ofText?_eq_equality_iff]
  refine ⟨.plain operand literal, compares, rfl, ?_⟩
  rw [spelled, String.toList_ofList, compares.trimmed]

/-- Parsing decides the language of conditions. A text is one of the two words, or it is spelled as
a comparison in exactly one way, or it is refused; and every operand that the language allows is
compared with every text by its plain spelling. -/
theorem parse_decides (source : String) :
    (parse (.str source) = .ok (.constant true) ↔ trim source.toList = "true".toList) ∧
    (parse (.str source) = .ok (.constant false) ↔ trim source.toList = "false".toList) ∧
    (∀ operand literal, parse (.str source) = .ok (.equality operand literal) ↔
      ∃ comparison : Comparison, comparison.Compares literal ∧ comparison.operand = operand ∧
        comparison.chars = trim source.toList) ∧
    (∀ (one other : Comparison) (literal literal' : List Char),
      one.Compares literal → one.chars = trim source.toList →
      other.Compares literal' → other.chars = trim source.toList →
        one = other ∧ literal = literal') ∧
    (trim source.toList ≠ "true".toList → trim source.toList ≠ "false".toList →
      (¬ ∃ (comparison : Comparison) (literal : List Char),
        comparison.Compares literal ∧ comparison.chars = trim source.toList) →
      parse (.str source) =
        .error (.rejected s!"Unsupported condition expression: {quoted source}")) ∧
    ∀ operand literal, IsOperand operand →
      parse (.str (String.ofList (operand ++ " == \"".toList ++ escaped literal ++ ['"']))) =
        .ok (.equality operand literal) := by
  refine ⟨?_, ?_, ?_, ?_, ?_, ?_⟩
  · exact parse_eq_ok_iff.trans ofText?_eq_constant_iff
  · exact parse_eq_ok_iff.trans ofText?_eq_constant_iff
  · intro operand literal
    exact parse_eq_ok_iff.trans ofText?_eq_equality_iff
  · intro one other literal literal' compares same compares' same'
    exact compares.unique compares' (same.trans same'.symm)
  · intro notTrue notFalse noComparison
    cases found : ofText? source with
    | none => rw [parse, found]
    | some condition =>
      cases condition with
      | constant holds =>
        have word := ofText?_eq_constant_iff.mp found
        cases holds with
        | true => exact absurd word notTrue
        | false => exact absurd word notFalse
      | equality operand literal =>
        obtain ⟨comparison, compares, -, same⟩ := ofText?_eq_equality_iff.mp found
        exact absurd ⟨comparison, literal, compares, same⟩ noComparison
  · intro operand literal proper
    exact parse_plain proper literal

/-- A quoted text with a sign of equality and a quote of its own is no obstacle, and a single sign
is no comparison. -/
theorem parse_decides_signs :
    parse (.str "$\x7ba\x7d == \"b == \\\"c\"") =
        .ok (.equality "$\x7ba\x7d".toList "b == \"c".toList) ∧
      parse (.str "a = \"b\"") =
        .error (.rejected "Unsupported condition expression: 'a = \"b\"'") := by
  constructor
  · have proper : IsOperand "$\x7ba\x7d".toList := ⟨by decide, by decide, by decide⟩
    obtain ⟨-, -, -, -, -, plain⟩ := parse_decides "$\x7ba\x7d"
    exact plain _ "b == \"c".toList proper
  · obtain ⟨-, -, -, -, refused, -⟩ := parse_decides "a = \"b\""
    apply refused (by decide) (by decide)
    rintro ⟨comparison, literal, -, same⟩
    have signless : ¬ ['=', '='] <:+: trim "a = \"b\"".toList := by decide +kernel
    exact signless (same ▸ comparison.sign_infix_chars)

end Parsing

end Condition

end Stepwise
