import Mathlib.Data.List.DropRight
import Mathlib.Data.List.TakeWhile
import Stepwise.Text.Blank

/-!
# Trimmed texts

A text that is trimmed already begins and ends with a character that is not blank. Any other text
is a trimmed one between two stretches of blanks.
-/

namespace Stepwise

/-- The text has blanks only. -/
def IsBlanks (text : List Char) : Prop := ∀ c ∈ text, isBlank c = true

theorem isBlanks_nil : IsBlanks [] := by
  intro c member
  cases member

theorem IsBlanks.append {before after : List Char} (blanks : IsBlanks before)
    (blanks' : IsBlanks after) : IsBlanks (before ++ after) := by
  intro c member
  rcases List.mem_append.mp member with first | last
  · exact blanks c first
  · exact blanks' c last

variable {text : List Char}

theorem trimLeft_append {before : List Char} (blanks : IsBlanks before) (rest : List Char) :
    trimLeft (before ++ rest) = trimLeft rest := List.dropWhile_append_of_pos blanks

theorem trimLeft_cons {c : Char} (other : isBlank c = false) (rest : List Char) :
    trimLeft (c :: rest) = c :: rest := by
  rw [trimLeft, List.dropWhile_cons_of_neg (by rw [other]; decide)]

/-- Blanks in front of another character are all of them, so they end in one place only. -/
theorem blanks_unique {before before' rest rest' : List Char} {c c' : Char}
    (blanks : IsBlanks before) (blanks' : IsBlanks before')
    (other : isBlank c = false) (other' : isBlank c' = false)
    (same : before ++ c :: rest = before' ++ c' :: rest') :
    before = before' ∧ c :: rest = c' :: rest' := by
  have trimmed := congrArg trimLeft same
  rw [trimLeft_append blanks, trimLeft_append blanks', trimLeft_cons other,
    trimLeft_cons other'] at trimmed
  rw [trimmed] at same
  exact ⟨List.append_cancel_right same, trimmed⟩

/-- What is dropped from the front of a text is blank. -/
theorem exists_trimLeft (text : List Char) :
    ∃ before, IsBlanks before ∧ text = before ++ trimLeft text :=
  ⟨text.takeWhile isBlank, fun _ member => List.mem_takeWhile_imp member,
    List.takeWhile_append_dropWhile.symm⟩

theorem exists_trimRight (text : List Char) :
    ∃ after, IsBlanks after ∧ text = trimRight text ++ after := by
  obtain ⟨before, blanks, split⟩ := exists_trimLeft text.reverse
  refine ⟨before.reverse, fun c member => blanks c (List.mem_reverse.mp member), ?_⟩
  have whole := congrArg List.reverse split
  rw [List.reverse_reverse, List.reverse_append] at whole
  exact whole

theorem length_trimLeft_le (text : List Char) : (trimLeft text).length ≤ text.length :=
  (List.dropWhile_suffix _).length_le

theorem length_trimRight_le (text : List Char) : (trimRight text).length ≤ text.length := by
  have reversed := length_trimLeft_le text.reverse
  rw [List.length_reverse] at reversed
  rw [trimRight, List.length_reverse]
  exact reversed

theorem trimLeft_eq_self_iff : trimLeft text = text ↔ ∀ c ∈ text.head?, isBlank c = false := by
  cases text with
  | nil => simp [trimLeft]
  | cons c rest =>
    cases blank : isBlank c with
    | false => simp [trimLeft_cons blank, blank]
    | true =>
      have shorter := length_trimLeft_le rest
      have dropped : trimLeft (c :: rest) = trimLeft rest := List.dropWhile_cons_of_pos blank
      refine iff_of_false (fun same => ?_) (by simp [blank])
      rw [dropped] at same
      rw [same, List.length_cons] at shorter
      omega

theorem trimRight_eq_self_iff :
    trimRight text = text ↔ ∀ c ∈ text.getLast?, isBlank c = false := by
  have reversed := @trimLeft_eq_self_iff text.reverse
  rw [List.head?_reverse] at reversed
  rw [← reversed, trimRight, List.reverse_eq_iff]
  rfl

/-- A text is trimmed when neither of its ends is blank. -/
theorem trim_eq_self_iff : trim text = text ↔
    (∀ c ∈ text.head?, isBlank c = false) ∧ ∀ c ∈ text.getLast?, isBlank c = false := by
  rw [← trimLeft_eq_self_iff, ← trimRight_eq_self_iff, trim]
  constructor
  · intro same
    have right := length_trimRight_le (trimLeft text)
    rw [same] at right
    have left : trimLeft text = text := (List.dropWhile_suffix _).eq_of_length_le right
    rw [left] at same
    exact ⟨left, same⟩
  · rintro ⟨left, right⟩
    rw [left, right]

/-- Trimming takes a stretch of blanks off both ends. -/
theorem exists_trim (text : List Char) :
    ∃ before after, IsBlanks before ∧ IsBlanks after ∧ text = before ++ trim text ++ after := by
  obtain ⟨before, blanks, front⟩ := exists_trimLeft text
  obtain ⟨after, blanks', behind⟩ := exists_trimRight (trimLeft text)
  refine ⟨before, after, blanks, blanks', ?_⟩
  rw [List.append_assoc, trim, ← behind, ← front]

/-- Trimming again changes nothing. -/
theorem trim_trim (text : List Char) : trim (trim text) = trim text := by
  have head : ∀ c ∈ (trimLeft text).head?, isBlank c = false :=
    trimLeft_eq_self_iff.mp (List.dropWhile_idempotent isBlank text)
  have last : ∀ c ∈ (trim text).getLast?, isBlank c = false := by
    refine trimRight_eq_self_iff.mp ?_
    rw [trim, trimRight, trimRight, List.reverse_reverse]
    exact congrArg List.reverse (List.dropWhile_idempotent isBlank _)
  refine trim_eq_self_iff.mpr ⟨fun c first => head c ?_, last⟩
  obtain ⟨after, -, split⟩ := exists_trimRight (trimLeft text)
  rw [split, List.head?_append]
  exact Option.or_eq_some_iff.mpr (.inl first)

end Stepwise
